import OnchainBacktest.Engine.CopyControls
import OnchainBacktest.Engine.CopyOutcomes

/-!
# The stages of a copied position

A position goes from its entry to its end through a few stages, and each of them says all there is
to say of its control and of its attempts: one entry, the failed exits in a chain in which each is
decided no earlier than the retry of the one before it (`FailedSells`), and at most one order that
is pending.

Every position of every reachable state of a run is in one of the stages (`CopyReachable.stage`).
-/

set_option autoImplicit false

namespace OnchainBacktest

open Checked CopyPositionControl

variable [DomainDigest]

/-- A transaction boundary on the chain of a run. -/
structure CopySetup.Here (setup : CopySetup) (position : ChainPosition) : Prop where
  network : position.networkId = setup.clock.networkId
  boundary : position.eventIndex = none

omit [DomainDigest] in
theorem CopySetup.OnChain.here {setup : CopySetup} {position : ChainPosition}
    (h : setup.OnChain position) : setup.Here position := by
  obtain ⟨boundary, h⟩ := h
  obtain ⟨hnetwork, hevent, _⟩ := ChainPosition.fromBoundaryOrdinal_eq_ok h
  exact ⟨hnetwork, hevent⟩

/-! ## Attempts -/

namespace CopyOrderAttempt

/-- An order that waits for its landing. -/
structure Pending (attempt : CopyOrderAttempt) : Prop where
  status : attempt.status = .submitted
  landedAt : attempt.landedAt = none
  landingQuote : attempt.landingQuote = none
  failureCode : attempt.failureCode = none
  reference : attempt.reference ≠ none

/-- An order that was rejected for free, or that landed and failed. -/
inductive Failed (attempt : CopyOrderAttempt) : Prop
  | rejected (status : attempt.status = .rejected) (landedAt : attempt.landedAt = none)
      (landingQuote : attempt.landingQuote = none) (failureCode : attempt.failureCode ≠ none)
  | landed (status : attempt.status = .failed)
      (landedAt : attempt.landedAt = some attempt.expectedLanding)
      (failureCode : attempt.failureCode ≠ none) (reference : attempt.reference ≠ none)

/-- An order that was filled with a quote. -/
structure FilledWith (attempt : CopyOrderAttempt) (quote : ProtocolQuote) : Prop where
  status : attempt.status = .filled
  landedAt : attempt.landedAt = some attempt.expectedLanding
  landingQuote : attempt.landingQuote = some quote
  failureCode : attempt.failureCode = none
  reference : attempt.reference ≠ none
  reached : attempt.minimumOutAtomic ≤ quote.amountOutAtomic

end CopyOrderAttempt

/-- What an attempt keeps from when it is made, and what holds of its quotes. -/
structure AttemptOf (setup : CopySetup) (intent : CopyBuyIntent) (side : ProtocolQuoteSide)
    (number : Nat) (valid : ProtocolQuote → Prop) (attempt : CopyOrderAttempt) : Prop where
  orderId_eq : attempt.orderId = copyOrderId intent.roundtripId side number
  side_eq : attempt.side = side
  number_eq : attempt.number = number
  here : setup.Here attempt.decision
  landing : setup.clock.transactionAfter attempt.decision (intent.policy.delayTransactions side)
    = .ok attempt.expectedLanding
  network : ∃ network, attempt.network = some network ∧
    network.feeAssetId = SOLANA_NATIVE_ASSET_ID
  reference : ∀ quote ∈ attempt.reference, valid quote
  landingQuote : ∀ quote ∈ attempt.landingQuote, valid quote

/-- An entry of a position. -/
abbrev BuyOf (setup : CopySetup) (intent : CopyBuyIntent) : CopyOrderAttempt → Prop :=
  AttemptOf setup intent .buy 0 fun quote =>
    validateBuyQuote intent.toPositionIntent quote = .ok ()

/-- An exit of a position that holds these tokens. -/
abbrev SellOf (setup : CopySetup) (intent : CopyBuyIntent) (tokens number : Nat) :
    CopyOrderAttempt → Prop :=
  AttemptOf setup intent .sell number fun quote =>
    validateSellQuote intent.toPositionIntent tokens quote = .ok ()

section Attempts

variable {setup : CopySetup} {intent : CopyBuyIntent} {side : ProtocolQuoteSide} {number : Nat}
  {valid : ProtocolQuote → Prop} {attempt : CopyOrderAttempt}

/-- An attempt that has no quote yet. -/
theorem AttemptMade.attemptOf {state : CopyExecutionPosition} {position : ChainPosition}
    {network : NetworkCostQuote} {seconds : Nat}
    (h : AttemptMade setup state side number position network seconds attempt)
    (hhere : setup.Here position) (hnetwork : network.feeAssetId = SOLANA_NATIVE_ASSET_ID)
    (valid : ProtocolQuote → Prop) : AttemptOf setup state.intent side number valid attempt := by
  have heq := h.eq
  have hlanding := h.landing
  refine ⟨?_, ?_, ?_, ?_, ?_, ?_, ?_, ?_⟩
  · rw [heq]
  · rw [heq]
  · rw [heq]
  · rw [heq]
    exact hhere
  · rw [show attempt.decision = position by rw [heq]]
    exact hlanding
  · exact ⟨network, by rw [heq], hnetwork⟩
  · rw [heq]
    intro quote hquote
    cases hquote
  · rw [heq]
    intro quote hquote
    cases hquote

theorem AttemptMade.unended {state : CopyExecutionPosition} {position : ChainPosition}
    {network : NetworkCostQuote} {seconds : Nat}
    (h : AttemptMade setup state side number position network seconds attempt) :
    attempt.decision = position ∧ attempt.landedAt = none ∧ attempt.landingQuote = none ∧
      attempt.failureCode = none := by
  rw [h.eq]
  exact ⟨rfl, rfl, rfl, rfl⟩

/-- An attempt with its reference. -/
theorem AttemptOf.referring (h : AttemptOf setup intent side number valid attempt)
    {reference : ProtocolQuote} (hvalid : valid reference) (minimumOutAtomic : Nat) :
    AttemptOf setup intent side number valid (attempt.referring reference minimumOutAtomic) :=
  { h with
    reference := by
      intro quote hquote
      cases hquote
      exact hvalid }

theorem AttemptOf.rejectedFor (h : AttemptOf setup intent side number valid attempt)
    (code : String) : AttemptOf setup intent side number valid (attempt.rejectedFor code) :=
  { h with }

theorem AttemptOf.submitted (h : AttemptOf setup intent side number valid attempt) :
    AttemptOf setup intent side number valid attempt.submitted :=
  { h with }

theorem AttemptOf.landed (h : AttemptOf setup intent side number valid attempt)
    (position : ChainPosition) {landing : LandingAttempt}
    (hlanding : ∀ quote, landing = .filled quote ∨ (∃ code, landing = .rejected code (some quote)) →
      valid quote) :
    AttemptOf setup intent side number valid (attempt.landed position landing) := by
  cases landing with
  | rejected code landing =>
    exact { h with
      landingQuote := by
        intro quote hquote
        rw [Option.mem_def] at hquote
        exact hlanding quote (.inr ⟨code, congrArg _ hquote⟩) }
  | filled landing =>
    exact { h with
      landingQuote := by
        intro quote hquote
        cases hquote
        exact hlanding landing (.inl rfl) }

end Attempts

/-- The failed exits of a position, each with its number, from where the first may be decided to
where the next one may. -/
inductive FailedSells (setup : CopySetup) (intent : CopyBuyIntent) (tokens : Nat)
    (first : ChainPosition) : List CopyOrderAttempt → ChainPosition → Prop
  | nil : FailedSells setup intent tokens first [] first
  | append {sells : List CopyOrderAttempt} {due retry : ChainPosition} {sell : CopyOrderAttempt}
      (earlier : FailedSells setup intent tokens first sells due)
      (sell_of : SellOf setup intent tokens (sells.length + 1) sell)
      (due_le : due.boundaryOrdinal ≤ sell.decision.boundaryOrdinal) (failed : sell.Failed)
      (retry_eq : holdingDeadline setup.clock sell.notifiedAt SELL_RETRY_DELAY_NS = .ok retry) :
      FailedSells setup intent tokens first (sells ++ [sell]) retry

/-! ## Stages -/

section Stages

variable (setup : CopySetup) (state : CopyExecutionPosition)

/-- The position bought with a quote. -/
structure Bought (entry : CopyOrderAttempt) (quote : ProtocolQuote) : Prop where
  buy : BuyOf setup state.intent entry
  decision : entry.decision = state.intent.decisionPosition
  filled : entry.FilledWith quote
  acquired : state.control.acquiredTokensAtomic = quote.amountOutAtomic
  price : ∃ price, TokenPrice.make quote.venueInputAtomic quote.amountOutAtomic = .ok price ∧
    state.control.entryPrice = some price
  fill : state.control.buyFillPosition = some entry.expectedLanding
  policy : state.control.policy = state.intent.policy

/-- The exit is latched. -/
structure Triggered (entry : CopyOrderAttempt) (trigger : ChainPosition) : Prop where
  reason : state.control.exitReason ≠ none
  position : state.control.triggerPosition = some trigger
  here : setup.Here trigger
  after : entry.expectedLanding.boundaryOrdinal ≤ trigger.boundaryOrdinal

/-- The exit that is latched is being tried: the attempts that failed, and the last one. -/
structure Trying (entry : CopyOrderAttempt) (quote : ProtocolQuote) (trigger : ChainPosition)
    (sells : List CopyOrderAttempt) (due : ChainPosition) (last : CopyOrderAttempt) : Prop where
  bought : Bought setup state entry quote
  triggered : Triggered setup state entry trigger
  attempts : state.attempts = entry :: (sells ++ [last])
  failed : FailedSells setup state.intent quote.amountOutAtomic trigger sells due
  last_of : SellOf setup state.intent quote.amountOutAtomic (sells.length + 1) last
  due_le : due.boundaryOrdinal ≤ last.decision.boundaryOrdinal
  count : state.control.sellAttemptCount = sells.length + 1
  count_le : sells.length + 1 ≤ MAXIMUM_SELL_ATTEMPTS

/-- The account plan of a position is one for its own mint. -/
structure Planned (plan : AccountReservationPlan) : Prop where
  plan_eq : state.accountPlan = some plan
  prepared : ∃ accounts requirements, prepareAccountReservation accounts state.intent.roundtripId
    state.intent.assetId requirements = .ok plan

/-- The stages of a position. -/
inductive CopyStage : Prop
  | fresh (control : state.control = (CopyExecutionPosition.start state.intent).control)
      (attempts : state.attempts = []) (here : setup.Here state.intent.decisionPosition)
  | entering {entry : CopyOrderAttempt} {plan : AccountReservationPlan}
      (control : state.control = (CopyExecutionPosition.start state.intent).control)
      (attempts : state.attempts = [entry]) (buy : BuyOf setup state.intent entry)
      (decision : entry.decision = state.intent.decisionPosition) (pending : entry.Pending)
      (planned : Planned state plan)
  | unentered {entry : CopyOrderAttempt}
      (control : state.control =
        { (CopyExecutionPosition.start state.intent).control with status := .buyFailed })
      (attempts : state.attempts = [entry]) (buy : BuyOf setup state.intent entry)
      (decision : entry.decision = state.intent.decisionPosition) (failed : entry.Failed)
      (components : ∀ c ∈ state.accountComponents,
        c.paidAtomic = 0 ∧ c.lockedDeltaAtomic = 0 ∧ c.refundedAtomic = 0)
  | holding {entry : CopyOrderAttempt} {quote : ProtocolQuote}
      (status : state.control.status = .opened) (bought : Bought setup state entry quote)
      (attempts : state.attempts = [entry]) (count : state.control.sellAttemptCount = 0)
      (retry : state.control.retryPosition = none)
      (exit : (state.control.exitReason = none ∧ state.control.triggerPosition = none) ∨
        ∃ trigger, Triggered setup state entry trigger)
  | selling {entry : CopyOrderAttempt} {quote : ProtocolQuote} {trigger due : ChainPosition}
      {sells : List CopyOrderAttempt} {last : CopyOrderAttempt}
      (status : state.control.status = .sellPending)
      (trying : Trying setup state entry quote trigger sells due last) (pending : last.Pending)
  | waiting {entry : CopyOrderAttempt} {quote : ProtocolQuote} {trigger due retry : ChainPosition}
      {sells : List CopyOrderAttempt} {last : CopyOrderAttempt}
      (status : state.control.status = .retryWait)
      (trying : Trying setup state entry quote trigger sells due last) (failed : last.Failed)
      (count_lt : sells.length + 1 < MAXIMUM_SELL_ATTEMPTS)
      (retry_eq : holdingDeadline setup.clock last.notifiedAt SELL_RETRY_DELAY_NS = .ok retry)
      (retries : state.control.retryPosition = some retry)
  | exhausted {entry : CopyOrderAttempt} {quote : ProtocolQuote} {trigger due : ChainPosition}
      {sells : List CopyOrderAttempt} {last : CopyOrderAttempt}
      (status : state.control.status = .exhausted)
      (trying : Trying setup state entry quote trigger sells due last) (failed : last.Failed)
      (count_eq : sells.length + 1 = MAXIMUM_SELL_ATTEMPTS)
  | closed {entry : CopyOrderAttempt} {quote landing : ProtocolQuote} {trigger due : ChainPosition}
      {sells : List CopyOrderAttempt} {last : CopyOrderAttempt}
      (status : state.control.status = .closed)
      (trying : Trying setup state entry quote trigger sells due last)
      (filled : last.FilledWith landing)

end Stages

section Congruence

variable {setup : CopySetup} {state state' : CopyExecutionPosition} {entry : CopyOrderAttempt}
  {quote : ProtocolQuote} {trigger due : ChainPosition} {sells : List CopyOrderAttempt}
  {last : CopyOrderAttempt}

/-- What of a control a purchase decides. -/
def CopyPositionControl.boughtPart (control : CopyPositionControl) :
    Nat × Option TokenPrice × Option ChainPosition × CopyBuyPolicy :=
  (control.acquiredTokensAtomic, control.entryPrice, control.buyFillPosition, control.policy)

/-- What of a control a trigger decides. -/
def CopyPositionControl.triggerPart (control : CopyPositionControl) :
    Option CopyExitReason × Option ChainPosition :=
  (control.exitReason, control.triggerPosition)

theorem Bought.congr (h : Bought setup state entry quote) (hintent : state'.intent = state.intent)
    (hpart : state'.control.boughtPart = state.control.boughtPart) :
    Bought setup state' entry quote := by
  simp only [CopyPositionControl.boughtPart, Prod.mk.injEq] at hpart
  obtain ⟨hacquired, hentry, hfill, hpolicy⟩ := hpart
  refine ⟨?_, ?_, h.filled, ?_, ?_, ?_, ?_⟩
  · rw [hintent]
    exact h.buy
  · rw [hintent]
    exact h.decision
  · rw [hacquired]
    exact h.acquired
  · rw [hentry]
    exact h.price
  · rw [hfill]
    exact h.fill
  · rw [hpolicy, hintent]
    exact h.policy

omit [DomainDigest] in
theorem Triggered.congr (h : Triggered setup state entry trigger)
    (hpart : state'.control.triggerPart = state.control.triggerPart) :
    Triggered setup state' entry trigger := by
  simp only [CopyPositionControl.triggerPart, Prod.mk.injEq] at hpart
  exact ⟨hpart.1 ▸ h.reason, hpart.2.trans h.position, h.here, h.after⟩

theorem Trying.congr (h : Trying setup state entry quote trigger sells due last)
    (hintent : state'.intent = state.intent) (hattempts : state'.attempts = state.attempts)
    (hbought : state'.control.boughtPart = state.control.boughtPart)
    (htrigger : state'.control.triggerPart = state.control.triggerPart)
    (hcount : state'.control.sellAttemptCount = state.control.sellAttemptCount) :
    Trying setup state' entry quote trigger sells due last := by
  refine ⟨h.bought.congr hintent hbought, h.triggered.congr htrigger, hattempts.trans h.attempts,
    ?_, ?_, h.due_le, hcount.trans h.count, h.count_le⟩
  · rw [hintent]
    exact h.failed
  · rw [hintent]
    exact h.last_of

theorem Trying.attempts_eq (h : Trying setup state entry quote trigger sells due last) :
    state.attempts = (entry :: sells) ++ [last] :=
  h.attempts

end Congruence

/-! ## Every move keeps a position in its stages -/

section Notified

variable {setup : CopySetup} {control : CopyPositionControl} {attempt : CopyOrderAttempt}

omit [DomainDigest] in
theorem notifyControl_buyFailed (h : attempt.side = .buy) :
    notifyControl setup control attempt false = control.failBuy := by
  rw [notifyControl.eq_def, h]

omit [DomainDigest] in
theorem notifyControl_buyFilled (h : attempt.side = .buy) {quote : ProtocolQuote}
    (hquote : attempt.landingQuote = some quote) :
    notifyControl setup control attempt true = control.fillBuy setup.clock attempt.notifiedAt
      quote.venueInputAtomic quote.amountOutAtomic := by
  rw [notifyControl.eq_def, h, hquote]

omit [DomainDigest] in
theorem notifyControl_sellFailed (h : attempt.side = .sell) :
    notifyControl setup control attempt false = control.failSell setup.clock attempt.number
      attempt.notifiedAt attempt.landedAt.isSome := by
  rw [notifyControl.eq_def, h]

omit [DomainDigest] in
theorem notifyControl_sellFilled (h : attempt.side = .sell) :
    notifyControl setup control attempt true
      = control.fillSell attempt.number attempt.notifiedAt := by
  rw [notifyControl.eq_def, h]

end Notified

section Keeps

variable {setup : CopySetup} {desk : CopyDesk} {state : CopyExecutionPosition}
  {position : ChainPosition} {handled : CopyHandled}

omit [DomainDigest] in
theorem NetworkCostQuote.make_eq_ok {asset : AssetId} {base priority : Nat}
    {requirements : List PricedAccountRequirement} {network : NetworkCostQuote}
    (h : NetworkCostQuote.make asset base priority requirements = .ok network) :
    network.feeAssetId = asset := by
  rw [NetworkCostQuote.make] at h
  split at h
  · cases h
    rfl
  · cases h

omit [DomainDigest] in
theorem SolanaSnipingCostModel.quoteBuy_feeAsset {costs : SolanaSnipingCostModel} {seconds : Nat}
    {requirements : List AccountRequirement} {network : NetworkCostQuote}
    (h : costs.quoteBuy seconds requirements = .ok network) :
    network.feeAssetId = SOLANA_NATIVE_ASSET_ID := by
  obtain ⟨fee, _, h⟩ := bind_eq_ok.mp h
  obtain ⟨priced, _, h⟩ := bind_eq_ok.mp h
  exact NetworkCostQuote.make_eq_ok h

omit [DomainDigest] in
theorem SolanaSnipingCostModel.quoteSell_feeAsset {costs : SolanaSnipingCostModel} {seconds : Nat}
    {network : NetworkCostQuote} (h : costs.quoteSell seconds = .ok network) :
    network.feeAssetId = SOLANA_NATIVE_ASSET_ID := by
  obtain ⟨fee, _, h⟩ := bind_eq_ok.mp h
  exact NetworkCostQuote.make_eq_ok h

omit [DomainDigest] in
/-- An account that was not paid for has nothing locked. -/
theorem unpaid_of_componentRecord {component : AccountReservationComponent} {rid : ContentDigest}
    {lifecycle : AccountComponentLifecycle} {released : Nat} {record : AccountComponentRecord}
    (h : (componentRecord component rid lifecycle 0 released).checked = .ok record) :
    record.paidAtomic = 0 ∧ record.lockedDeltaAtomic = 0 ∧ record.refundedAtomic = 0 := by
  obtain ⟨_, rfl⟩ := AccountComponentRecord.checked_eq_ok.mp h
  exact ⟨rfl, rfl, rfl⟩

omit [DomainDigest] in
theorem unpaid_of_unsubmitted {accounts : WalletProvisioningState} {plan : AccountReservationPlan}
    {records : List AccountComponentRecord}
    (h : unsubmittedAccountRecords accounts plan = .ok records) :
    ∀ c ∈ records, c.paidAtomic = 0 ∧ c.lockedDeltaAtomic = 0 ∧ c.refundedAtomic = 0 := by
  intro c hc
  obtain ⟨component, _, hrecord⟩ := exists_of_mem_mapM h hc
  exact unpaid_of_componentRecord hrecord

omit [DomainDigest] in
theorem unpaid_of_failed {accounts : WalletProvisioningState} {plan : AccountReservationPlan}
    {transition : AccountProvisioningTransition}
    (h : applyBuyAccountTransition accounts plan false = .ok transition) :
    ∀ c ∈ transition.records,
      c.paidAtomic = 0 ∧ c.lockedDeltaAtomic = 0 ∧ c.refundedAtomic = 0 := by
  intro c hc
  obtain ⟨_, h⟩ := check_bind_eq_ok.mp h
  obtain ⟨records, hrecords, h⟩ := bind_eq_ok.mp h
  cases h
  obtain ⟨component, _, hrecord⟩ := exists_of_mem_mapM hrecords hc
  exact unpaid_of_componentRecord hrecord

omit [DomainDigest] in
theorem CopyOrderAttempt.failed_rejectedFor {attempt : CopyOrderAttempt}
    (hlanded : attempt.landedAt = none) (hquote : attempt.landingQuote = none) (code : String) :
    (attempt.rejectedFor code).Failed :=
  .rejected rfl hlanded hquote (Option.some_ne_none _)

theorem CopyStage.of_start {intent : CopyBuyIntent} (h : setup.Decided intent) :
    CopyStage setup (CopyExecutionPosition.start intent) := by
  obtain ⟨_, _, _, position, hon, _, hdecide⟩ := h
  obtain ⟨_, _, hposition, _⟩ := PumpfunCopyBuyStrategy.decide_eq_some hdecide
  refine .fresh rfl rfl ?_
  show setup.Here intent.decisionPosition
  rw [hposition]
  exact hon.here

/-- A stage whose status is that of an open position. -/
theorem CopyStage.of_opened (h : CopyStage setup state) (hstatus : state.control.status = .opened) :
    ∃ entry quote, Bought setup state entry quote ∧ state.attempts = [entry] ∧
      state.control.sellAttemptCount = 0 ∧ state.control.retryPosition = none ∧
      ((state.control.exitReason = none ∧ state.control.triggerPosition = none) ∨
        ∃ trigger, Triggered setup state entry trigger) := by
  cases h with
  | fresh control | entering control | unentered control =>
    rw [control] at hstatus
    cases hstatus
  | holding _ bought attempts count retry exit => exact ⟨_, _, bought, attempts, count, retry, exit⟩
  | selling status | waiting status | exhausted status | closed status =>
    rw [status] at hstatus
    cases hstatus

/-- **An evaluation keeps a position in its stage.** -/
theorem CopyStage.evaluated (h : CopyStage setup state) (hon : setup.OnChain position)
    {price : Option TokenPrice} {control : CopyPositionControl} {reason : Option CopyExitReason}
    (hevaluate : state.control.evaluateExit position price = .ok (control, reason)) :
    CopyStage setup { state with control := control } := by
  cases evaluateExit_cases hevaluate with
  | other => exact h
  | noted hopen =>
    obtain ⟨entry, quote, bought, attempts, count, retry, exit⟩ := h.of_opened hopen
    refine .holding hopen (bought.congr rfl rfl) attempts count retry ?_
    rcases exit with exit | ⟨trigger, triggered⟩
    · exact .inl exit
    · exact .inr ⟨trigger, triggered.congr rfl⟩
  | triggered hopen hfill _ _ hafter _ _ =>
    obtain ⟨entry, quote, bought, attempts, count, retry, _⟩ := h.of_opened hopen
    refine .holding hopen (bought.congr rfl rfl) attempts count retry ?_
    have hlanding := (requireAtOrAfter_eq_ok.mp hafter).2.2
    rw [Option.some.inj (hfill.symm.trans bought.fill)] at hlanding
    exact .inr ⟨position, Option.some_ne_none _, rfl, hon.here, hlanding⟩

/-- A position that has not tried to enter. -/
theorem CopyStage.of_untried (h : CopyStage setup state) (huntried : state.attempts = []) :
    state.control = (CopyExecutionPosition.start state.intent).control ∧
      setup.Here state.intent.decisionPosition := by
  cases h with
  | fresh control _ here => exact ⟨control, here⟩
  | entering _ attempts | unentered _ attempts | holding _ _ attempts =>
    rw [huntried] at attempts
    cases attempts
  | selling _ trying | waiting _ trying | exhausted _ trying | closed _ trying =>
    have attempts := trying.attempts
    rw [huntried] at attempts
    cases attempts

/-- An entry that was rejected for free. -/
theorem CopyStage.rejected_buy {attempt : CopyOrderAttempt} {code : String}
    (h : CopySettled setup desk state (attempt.rejectedFor code) false handled)
    (hcontrol : state.control = (CopyExecutionPosition.start state.intent).control)
    (hattempts : state.attempts = []) (hbuy : BuyOf setup state.intent attempt)
    (hdecision : attempt.decision = state.intent.decisionPosition)
    (hlanded : attempt.landedAt = none) (hquote : attempt.landingQuote = none)
    (hunpaid : ∀ c ∈ state.accountComponents,
      c.paidAtomic = 0 ∧ c.lockedDeltaAtomic = 0 ∧ c.refundedAtomic = 0) :
    CopyStage setup handled.state := by
  obtain ⟨hnotify⟩ := h
  rw [notifyControl_buyFailed (hbuy.rejectedFor code).side_eq] at hnotify
  obtain ⟨_, rfl⟩ := failBuy_eq_ok.mp hnotify
  refine .unentered ?_ ?_ (hbuy.rejectedFor code) hdecision
    (CopyOrderAttempt.failed_rejectedFor hlanded hquote code) hunpaid
  · show { state.control with status := CopyPositionStatus.buyFailed } = _
    rw [hcontrol]
  · show state.attempts ++ [attempt.rejectedFor code] = _
    rw [hattempts, List.nil_append]

/-- **An entry that is begun is rejected or pending.** -/
theorem CopyStage.begun_buy (h : CopyStage setup state)
    (hbegun : BuyBegun setup desk state handled) : CopyStage setup handled.state := by
  obtain @⟨attempt, network, seconds, requirements, plan, records, _, untried, observed, made,
    requirements_eq, network_eq, plan_eq, records_eq, outcome⟩ := hbegun
  obtain ⟨hcontrol, hhere⟩ := h.of_untried untried
  have hbuy : BuyOf setup state.intent attempt := made.attemptOf hhere
    (SolanaSnipingCostModel.quoteBuy_feeAsset network_eq) _
  obtain ⟨hdecision, hlanded, hquote, hcode⟩ := made.unended
  have hunpaid := unpaid_of_unsubmitted records_eq
  rcases outcome with ⟨code, _, settled⟩ | ⟨reference, _, valid, submission⟩
  · exact rejected_buy settled hcontrol untried hbuy hdecision hlanded hquote hunpaid
  · have hreferring := hbuy.referring valid (minimumOutputAtomic reference.amountOutAtomic
      state.intent.policy.buySlippageBps)
    cases submission with
    | rejected settled =>
      exact rejected_buy settled hcontrol untried hreferring hdecision hlanded hquote hunpaid
    | submitted _ _ _ _ =>
      refine .entering hcontrol ?_ hreferring.submitted hdecision
        ⟨rfl, hlanded, hquote, hcode, Option.some_ne_none _⟩ ⟨rfl, desk.accounts, _, plan_eq⟩
      show state.attempts ++ _ = _
      rw [untried, List.nil_append]

/-- What begins an exit: the failed attempts so far, and where the next one may be decided. -/
theorem CopyStage.of_sellable (h : CopyStage setup state) {control : CopyPositionControl}
    {number : Nat} (hbegin : state.control.beginSell setup.clock position = .ok (control, number)) :
    ∃ entry quote trigger due sells landing, Bought setup state entry quote ∧
      Triggered setup state entry trigger ∧ state.attempts = entry :: sells ∧
      FailedSells setup state.intent quote.amountOutAtomic trigger sells due ∧
      due.boundaryOrdinal ≤ position.boundaryOrdinal ∧ number = sells.length + 1 ∧
      sells.length + 1 ≤ MAXIMUM_SELL_ATTEMPTS ∧
      control = { state.control with
        sellAttemptCount := sells.length + 1
        attemptDecision := some position
        attemptLanding := some landing
        retryPosition := none
        status := .sellPending } := by
  obtain ⟨hstatus, reason, trigger, landing, hreason, htrigger, hafter, hcount, _, hnumber,
    hcontrol⟩ := beginSell_eq_ok hbegin
  have hafter := (requireAtOrAfter_eq_ok.mp hafter).2.2
  cases h with
  | fresh hfresh | entering hfresh | unentered hfresh =>
    rw [hfresh] at hstatus
    rcases hstatus with hstatus | hstatus <;> cases hstatus
  | selling status | exhausted status | closed status =>
    rw [status] at hstatus
    rcases hstatus with hstatus | hstatus <;> cases hstatus
  | holding status bought attempts count retry exit =>
    rw [count] at hcount hnumber hcontrol
    rw [retry, Option.getD_none] at hafter
    rcases exit with ⟨hnone, _⟩ | ⟨latched, triggered⟩
    · rw [hnone] at hreason
      cases hreason
    · have hlatched := Option.some.inj (triggered.position.symm.trans htrigger)
      rw [← hlatched] at hafter
      exact ⟨_, _, latched, latched, [], landing, bought, triggered, attempts, .nil, hafter,
        hnumber, hcount, hcontrol⟩
  | waiting status trying failed count_lt retry_eq retries =>
    rename_i entry quote latched due retry sells last
    rw [retries, Option.getD_some] at hafter
    rw [trying.count] at hnumber hcontrol
    refine ⟨entry, quote, latched, retry, sells ++ [last], landing, trying.bought,
      trying.triggered, trying.attempts,
      .append trying.failed trying.last_of trying.due_le failed retry_eq, hafter, ?_, ?_, ?_⟩
    · rw [List.length_append, List.length_singleton]
      exact hnumber
    · rw [List.length_append, List.length_singleton]
      exact count_lt
    · rw [List.length_append, List.length_singleton]
      exact hcontrol

/-- An exit that failed waits for its retry, or it was the last. -/
theorem CopyStage.failed_sell {entry last : CopyOrderAttempt} {quote : ProtocolQuote}
    {trigger due : ChainPosition} {sells : List CopyOrderAttempt}
    (htrying : Trying setup { state with attempts := state.attempts ++ [last] } entry quote trigger
      sells due last)
    (hfailed : last.Failed)
    (h : CopySettled setup desk state last false handled) : CopyStage setup handled.state := by
  obtain ⟨hnotify⟩ := h
  rw [notifyControl_sellFailed htrying.last_of.side_eq] at hnotify
  have hcount := htrying.count
  obtain ⟨_, _, ⟨hlast, rfl⟩ | ⟨hearlier, retry, hretry, rfl⟩⟩ := failSell_eq_ok hnotify
  · exact .exhausted rfl (htrying.congr rfl rfl rfl rfl rfl) hfailed (hcount.symm.trans hlast)
  · refine .waiting rfl (htrying.congr rfl rfl rfl rfl rfl) hfailed ?_ hretry rfl
    exact lt_of_le_of_ne htrying.count_le fun h => hearlier (hcount.trans h)

/-- **An exit that is begun is rejected or pending.** -/
theorem CopyStage.begun_sell (h : CopyStage setup state) (hon : setup.OnChain position)
    (hbegun : SellBegun setup desk state position handled) : CopyStage setup handled.state := by
  obtain @⟨control, number, attempt, network, seconds, _, control_eq, made, network_eq,
    outcome⟩ := hbegun
  obtain ⟨entry, quote, trigger, due, sells, landing, bought, triggered, attempts, failed, due_le,
    rfl, count_le, rfl⟩ := h.of_sellable control_eq
  obtain ⟨hdecision, hlanded, hquote, hcode⟩ := made.unended
  have htokens : ({ state.control with
      sellAttemptCount := sells.length + 1
      attemptDecision := some position
      attemptLanding := some landing
      retryPosition := none
      status := .sellPending } : CopyPositionControl).remainingTokensAtomic
        = quote.amountOutAtomic := bought.acquired
  rw [htokens] at outcome
  have hsell : SellOf setup state.intent quote.amountOutAtomic (sells.length + 1) attempt :=
    made.attemptOf hon.here (SolanaSnipingCostModel.quoteSell_feeAsset network_eq) _
  rw [← hdecision] at due_le
  -- The position once the attempt stands at the end of its attempts.
  have htrying : ∀ last : CopyOrderAttempt,
      SellOf setup state.intent quote.amountOutAtomic (sells.length + 1) last →
      last.decision = attempt.decision →
      Trying setup { state with
        control := { state.control with
          sellAttemptCount := sells.length + 1
          attemptDecision := some position
          attemptLanding := some landing
          retryPosition := none
          status := .sellPending }
        attempts := state.attempts ++ [last] } entry quote trigger sells due last := by
    intro last hlast hsame
    refine ⟨bought.congr rfl rfl, triggered.congr rfl, ?_, failed, hlast, hsame ▸ due_le, rfl,
      count_le⟩
    show state.attempts ++ [last] = _
    rw [attempts, List.cons_append]
  rcases outcome with ⟨code, _, settled⟩ | ⟨reference, _, valid, submission⟩
  · exact failed_sell (htrying (attempt.rejectedFor code) (hsell.rejectedFor code) rfl)
      (CopyOrderAttempt.failed_rejectedFor hlanded hquote code) settled
  · have hreferring := hsell.referring valid (minimumOutputAtomic reference.amountOutAtomic
      state.intent.policy.sellSlippageBps)
    cases submission with
    | rejected settled =>
      have hfailed := @CopyOrderAttempt.failed_rejectedFor
        (attempt.referring reference (minimumOutputAtomic reference.amountOutAtomic
          state.intent.policy.sellSlippageBps)) hlanded hquote "INSUFFICIENT_FUNDS"
      exact failed_sell (htrying (CopyOrderAttempt.rejectedFor _ _) (hreferring.rejectedFor _) rfl)
        hfailed settled
    | submitted _ _ _ _ =>
      exact .selling rfl (htrying (CopyOrderAttempt.submitted _) hreferring.submitted rfl)
        ⟨rfl, hlanded, hquote, hcode, Option.some_ne_none _⟩

/-- A position whose last order is pending. -/
theorem CopyStage.of_pending (h : CopyStage setup state) {earlier : List CopyOrderAttempt}
    {attempt : CopyOrderAttempt} (hattempts : state.attempts = earlier ++ [attempt])
    (hsubmitted : attempt.status = .submitted) :
    (∃ plan, state.control = (CopyExecutionPosition.start state.intent).control ∧ earlier = [] ∧
        BuyOf setup state.intent attempt ∧ attempt.decision = state.intent.decisionPosition ∧
        attempt.Pending ∧ Planned state plan) ∨
      ∃ entry quote trigger sells due, Trying setup state entry quote trigger sells due attempt ∧
        earlier = entry :: sells ∧ attempt.Pending ∧ state.control.status = .sellPending := by
  have hlast : ∀ {before : List CopyOrderAttempt} {last : CopyOrderAttempt},
      state.attempts = before ++ [last] → earlier = before ∧ attempt = last := by
    intro before last h
    obtain ⟨hbefore, hlast⟩ := List.append_inj' (hattempts.symm.trans h) rfl
    exact ⟨hbefore, List.singleton_inj.mp hlast⟩
  have hnot : ¬ attempt.Failed := by
    intro hfailed
    cases hfailed with
    | rejected status | landed status =>
      rw [hsubmitted] at status
      cases status
  cases h with
  | fresh _ attempts =>
    rw [attempts] at hattempts
    exact absurd hattempts.symm (by simp)
  | entering control attempts buy decision pending planned =>
    obtain ⟨rfl, rfl⟩ := hlast (show state.attempts = [] ++ [_] from attempts)
    exact .inl ⟨_, control, rfl, buy, decision, pending, planned⟩
  | unentered _ attempts _ _ failed =>
    obtain ⟨rfl, rfl⟩ := hlast (show state.attempts = [] ++ [_] from attempts)
    exact absurd failed hnot
  | holding _ bought attempts =>
    obtain ⟨rfl, rfl⟩ := hlast (show state.attempts = [] ++ [_] from attempts)
    have hfilled := bought.filled.status
    rw [hsubmitted] at hfilled
    cases hfilled
  | selling status trying pending =>
    obtain ⟨rfl, rfl⟩ := hlast trying.attempts_eq
    exact .inr ⟨_, _, _, _, _, trying, rfl, pending, status⟩
  | waiting _ trying failed | exhausted _ trying failed =>
    obtain ⟨rfl, rfl⟩ := hlast trying.attempts_eq
    exact absurd failed hnot
  | closed _ trying filled =>
    obtain ⟨rfl, rfl⟩ := hlast trying.attempts_eq
    have hfilled := filled.status
    rw [hsubmitted] at hfilled
    cases hfilled

omit [DomainDigest] in
/-- What a refused landing leaves of its attempt. -/
theorem CopyOrderAttempt.Pending.failed_landed {attempt : CopyOrderAttempt} (hpending : attempt.Pending)
    (code : String) (landing : Option ProtocolQuote) :
    (attempt.landed attempt.expectedLanding (.rejected code landing)).Failed :=
  .landed rfl rfl (Option.some_ne_none _) hpending.reference

omit [DomainDigest] in
/-- What a fill leaves of its attempt. -/
theorem CopyOrderAttempt.Pending.filled_landed {attempt : CopyOrderAttempt} (hpending : attempt.Pending)
    {landing : ProtocolQuote} (hreached : attempt.minimumOutAtomic ≤ landing.amountOutAtomic) :
    (attempt.landed attempt.expectedLanding (.filled landing)).FilledWith landing :=
  ⟨rfl, rfl, rfl, hpending.failureCode, hpending.reference, hreached⟩

omit [DomainDigest] in
/-- The quote a landing was refused with has passed its check. -/
theorem LandingRefused.valid {quoted : Except Fault ProtocolQuote}
    {validate : ProtocolQuote → Except Fault Unit} {minimum : Nat} {code : String}
    {landing : Option ProtocolQuote} (h : LandingRefused quoted validate minimum code landing) :
    ∀ quote, LandingAttempt.rejected code landing = .filled quote ∨
        (∃ code', LandingAttempt.rejected code landing = .rejected code' (some quote)) →
      validate quote = .ok () := by
  rintro quote (hquote | ⟨code', hquote⟩)
  · cases hquote
  · cases h with
    | rejected => cases hquote
    | belowMinimum _ valid =>
      cases hquote
      exact valid

/-- The checks a landing quote of an entry has passed. -/
theorem CopyOrderAttempt.landingValid_buy {attempt : CopyOrderAttempt} {quote : ProtocolQuote}
    (hside : attempt.side = .buy) :
    attempt.landingValid state quote = validateBuyQuote state.intent.toPositionIntent quote := by
  rw [landingValid, hside]

theorem CopyOrderAttempt.landingValid_sell {attempt : CopyOrderAttempt} {quote : ProtocolQuote}
    (hside : attempt.side = .sell) :
    attempt.landingValid state quote = validateSellQuote state.intent.toPositionIntent
      state.control.remainingTokensAtomic quote := by
  rw [landingValid, hside]

/-- The landing of an entry. -/
theorem CopyStage.landed_buy {entry : CopyOrderAttempt}
    (hcontrol : state.control = (CopyExecutionPosition.start state.intent).control)
    (hattempts : state.attempts = [entry]) (hbuy : BuyOf setup state.intent entry)
    (hdecision : entry.decision = state.intent.decisionPosition) (hpending : entry.Pending)
    (h : CopyLanded setup desk state position handled) : CopyStage setup handled.state := by
  cases h with
  | failed due refused settlement_eq committed settled =>
    obtain ⟨rfl, rfl⟩ := due.last_eq (show state.attempts = [] ++ [_] from hattempts)
    obtain ⟨hnotify⟩ := settled
    rename_i attempt network seconds code landing settlement transaction desk' control
    have hlanded : BuyOf setup state.intent (attempt.landed position (.rejected code landing)) :=
      hbuy.landed position fun quote hquote =>
        (attempt.landingValid_buy hbuy.side_eq).symm.trans (refused.valid quote hquote)
    obtain ⟨plan, transition, _, _, htransition, _, rfl⟩ :=
      copySettlement_buyFailed hbuy.side_eq settlement_eq
    rw [notifyControl_buyFailed hlanded.side_eq] at hnotify
    obtain ⟨_, rfl⟩ := failBuy_eq_ok.mp hnotify
    have hfailed := hpending.failed_landed code landing
    rw [← due.here] at hfailed
    refine .unentered ?_ rfl hlanded
      hdecision hfailed (unpaid_of_failed htransition)
    show { state.control with status := CopyPositionStatus.buyFailed } = _
    rw [hcontrol]
    rfl
  | filled due quoted valid reached settlement_eq committed settled_eq fill_eq =>
    obtain ⟨rfl, rfl⟩ := due.last_eq (show state.attempts = [] ++ [_] from hattempts)
    obtain ⟨hnotify⟩ := settled_eq
    rename_i attempt network seconds landing settlement transaction desk' fill control
    rw [attempt.landingValid_buy hbuy.side_eq] at valid
    have hlanded : BuyOf setup state.intent (attempt.landed position (.filled landing)) := by
      refine hbuy.landed position fun quote hquote => ?_
      rcases hquote with hquote | ⟨code, hquote⟩
      · cases hquote
        exact valid
      · cases hquote
    rw [notifyControl_buyFilled hlanded.side_eq rfl] at hnotify
    obtain ⟨_, _, price, deadline, hprice, _, rfl⟩ := fillBuy_eq_ok hnotify
    have hfilled := hpending.filled_landed reached
    rw [← due.here] at hfilled
    refine .holding rfl
      ⟨hlanded, hdecision, hfilled, rfl, ⟨price, hprice, rfl⟩, ?_, ?_⟩ rfl ?_ ?_ (.inl ⟨?_, ?_⟩)
    · show some position = some attempt.expectedLanding
      rw [due.here]
    · show state.control.policy = _
      rw [hcontrol]
      rfl
    · show state.control.sellAttemptCount = 0
      rw [hcontrol]
      rfl
    · show state.control.retryPosition = none
      rw [hcontrol]
      rfl
    · show state.control.exitReason = none
      rw [hcontrol]
      rfl
    · show state.control.triggerPosition = none
      rw [hcontrol]
      rfl

/-- The landing of an exit. -/
theorem CopyStage.landed_sell {entry last : CopyOrderAttempt} {quote : ProtocolQuote}
    {trigger due : ChainPosition} {sells : List CopyOrderAttempt}
    (htrying : Trying setup state entry quote trigger sells due last) (hpending : last.Pending)
    (hstatus : state.control.status = .sellPending)
    (h : CopyLanded setup desk state position handled) : CopyStage setup handled.state := by
  have htokens : state.control.remainingTokensAtomic = quote.amountOutAtomic := by
    rw [remainingTokensAtomic, if_neg (by rw [hstatus]; exact CopyPositionStatus.noConfusion)]
    exact htrying.bought.acquired
  have hsell := htrying.last_of
  -- The position with its last attempt in its final form.
  have hfinal : ∀ (settlement : CopySettlement) (landing : LandingAttempt),
      SellOf setup state.intent quote.amountOutAtomic (sells.length + 1)
        (last.landed position landing) →
      (last.landed position landing).decision = last.decision →
      Trying setup { state.settledBy (entry :: sells) settlement with
        attempts := (state.settledBy (entry :: sells) settlement).attempts
          ++ [last.landed position landing] } entry quote trigger sells due
          (last.landed position landing) := by
    intro settlement landing hlast hsame
    exact ⟨htrying.bought.congr rfl rfl, htrying.triggered.congr rfl, rfl, htrying.failed, hlast,
      hsame ▸ htrying.due_le, htrying.count, htrying.count_le⟩
  cases h with
  | failed due refused settlement_eq committed settled =>
    obtain ⟨rfl, rfl⟩ := due.last_eq htrying.attempts_eq
    rename_i attempt network seconds code landing settlement transaction desk'
    have hlanded : SellOf setup state.intent quote.amountOutAtomic (sells.length + 1)
        (attempt.landed position (.rejected code landing)) := by
      refine hsell.landed position fun quote hquote => ?_
      have hvalid := refused.valid quote hquote
      rw [attempt.landingValid_sell hsell.side_eq, htokens] at hvalid
      exact hvalid
    have hfailed := hpending.failed_landed code landing
    rw [← due.here] at hfailed
    exact failed_sell (hfinal settlement _ hlanded rfl) hfailed settled
  | filled due quoted valid reached settlement_eq committed settled_eq fill_eq =>
    obtain ⟨rfl, rfl⟩ := due.last_eq htrying.attempts_eq
    obtain ⟨hnotify⟩ := settled_eq
    rename_i attempt network seconds landing settlement transaction desk' fill control
    rw [attempt.landingValid_sell hsell.side_eq, htokens] at valid
    have hlanded : SellOf setup state.intent quote.amountOutAtomic (sells.length + 1)
        (attempt.landed position (.filled landing)) := by
      refine hsell.landed position fun quote hquote => ?_
      rcases hquote with hquote | ⟨code, hquote⟩
      · cases hquote
        exact valid
      · cases hquote
    rw [notifyControl_sellFilled hlanded.side_eq] at hnotify
    obtain ⟨_, _, rfl⟩ := fillSell_eq_ok hnotify
    have hfilled := hpending.filled_landed reached
    rw [← due.here] at hfilled
    exact .closed rfl ((hfinal settlement _ hlanded rfl).congr rfl rfl rfl rfl rfl) hfilled

/-- **An order that lands takes its position to the next stage.** -/
theorem CopyStage.landed (h : CopyStage setup state)
    (hlanded : CopyLanded setup desk state position handled) : CopyStage setup handled.state := by
  obtain ⟨earlier, attempt, network, seconds, due⟩ : ∃ earlier attempt network seconds,
      LandingDue setup state position earlier attempt network seconds := by
    cases hlanded with
    | failed due | filled due => exact ⟨_, _, _, _, due⟩
  obtain ⟨plan, hcontrol, rfl, buy, decision, pending, _⟩ |
    ⟨entry, quote, trigger, sells, from_, trying, rfl, pending, status⟩ :=
    h.of_pending due.attempts due.submitted
  · exact landed_buy hcontrol due.attempts buy decision pending hlanded
  · exact landed_sell trying pending status hlanded

/-- **Every position is in one of its stages.** -/
theorem keptByMoves_stage (setup : CopySetup) :
    KeptByMoves setup fun _ state => CopyStage setup state where
  start := CopyStage.of_start
  evaluated hon hstage hevaluate := hstage.evaluated hon hevaluate
  begun := by
    intro positionId position desk state isBuy handled hon hstage hbegin
    rw [beginRequest] at hbegin
    split at hbegin
    · exact hstage.begun_buy (beginBuy_cases hbegin)
    · exact hstage.begun_sell hon (beginSell_cases hbegin)
  landed := fun _ hstage hland => hstage.landed (land_cases hland)

/-- **The positions of every reachable state are in their stages.** -/
theorem CopyReachable.stage {run : CopyRun} (h : CopyReachable setup run) :
    ∀ e ∈ run.states.entries, CopyStage setup e.2 :=
  h.positions (keptByMoves_stage setup)

end Keeps

end OnchainBacktest
