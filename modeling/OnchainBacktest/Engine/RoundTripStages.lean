import OnchainBacktest.Engine.Sniping
import OnchainBacktest.Engine.SnipingOutcomes
import OnchainBacktest.Engine.WalletOutcomes

/-!
# The stages of a round trip

What a run knows of a round trip grows with it: a decided launch, an eligible launch with its
intent, a priced buy, a submitted buy, a held position, a submitted sell.  Each stage is a
structure that extends the one before it and carries what the engine has checked by then, and has
the `state` of the run at that point.

`Lawful` lists the states a round trip can be in: eleven, each of them the state of a stage or what
an outcome makes of it.  Whatever is said about a round trip of a run is said by cases on it.
-/

set_option autoImplicit false

namespace OnchainBacktest

open Checked

/-! ## Account records -/

/-- A valid record of a component, by what it paid and what it released. -/
structure IsRecordOf (c : AccountReservationComponent) (rid : ContentDigest) (paid released : Nat)
    (r : AccountComponentRecord) : Prop where
  record : ∃ lifecycle, r = componentRecord c rid lifecycle paid released
  valid : r.postInit = .ok ()

section Records

variable {c w : AccountReservationComponent} {rid : ContentDigest} {paid released : Nat}
  {r : AccountComponentRecord}

theorem IsRecordOf.of_checked {lifecycle : AccountComponentLifecycle}
    (h : (componentRecord c rid lifecycle paid released).checked
      = .ok (componentRecord c rid lifecycle paid released)) :
    IsRecordOf c rid paid released (componentRecord c rid lifecycle paid released) :=
  ⟨⟨lifecycle, rfl⟩, (AccountComponentRecord.checked_eq_ok.mp h).1⟩

theorem IsRecordOf.scope_eq (h : IsRecordOf c rid paid released r) : r.scope = c.scope := by
  obtain ⟨_, rfl⟩ := h.record
  rfl

theorem IsRecordOf.paid_eq (h : IsRecordOf c rid paid released r) : r.paidAtomic = paid := by
  obtain ⟨_, rfl⟩ := h.record
  rfl

theorem IsRecordOf.released_eq (h : IsRecordOf c rid paid released r) :
    r.releasedAtomic = released := by
  obtain ⟨_, rfl⟩ := h.record
  rfl

theorem IsRecordOf.refunded_eq (h : IsRecordOf c rid paid released r) :
    r.refundedAtomic = 0 := by
  obtain ⟨_, rfl⟩ := h.record
  rfl

theorem IsRecordOf.lockedDelta_eq (h : IsRecordOf c rid paid released r) :
    r.lockedDeltaAtomic = paid := by
  obtain ⟨_, rfl⟩ := h.record
  rfl

/-- The wallet record of an order that landed: the deposit is paid in full or released in full. -/
def IsLandedRecordOf (w : AccountReservationComponent) (rid : ContentDigest)
    (r : AccountComponentRecord) : Prop :=
  IsRecordOf w rid 0 w.maximumReservedAtomic r ∨
    0 < w.maximumReservedAtomic ∧ IsRecordOf w rid w.maximumReservedAtomic 0 r

theorem IsLandedRecordOf.scope_eq (h : IsLandedRecordOf w rid r) : r.scope = w.scope := by
  obtain h | ⟨_, h⟩ := h
  · exact h.scope_eq
  · exact h.scope_eq

theorem IsLandedRecordOf.refunded_eq (h : IsLandedRecordOf w rid r) : r.refundedAtomic = 0 := by
  obtain h | ⟨_, h⟩ := h
  · exact h.refunded_eq
  · exact h.refunded_eq

theorem IsLandedRecordOf.lockedDelta_eq (h : IsLandedRecordOf w rid r) :
    r.lockedDeltaAtomic = r.paidAtomic := by
  obtain h | ⟨_, h⟩ := h
  · rw [h.lockedDelta_eq, h.paid_eq]
  · rw [h.lockedDelta_eq, h.paid_eq]

theorem IsLandedRecordOf.valid (h : IsLandedRecordOf w rid r) : r.postInit = .ok () := by
  obtain h | ⟨_, h⟩ := h
  · exact h.valid
  · exact h.valid

end Records

section Stages

variable [DomainDigest] (setup : SnipingSetup) (rid : ContentDigest)

/-! ## The stages -/

/-- A launch the strategy has decided. -/
structure DecidedLaunch where
  target : LaunchTarget
  timeNs : Nat
  roundtripId_eq : setup.strategy.roundtripId target = rid
  time_eq : setup.clock.blockTimeForPosition target.position = .ok timeNs
  assets_ne : target.assetId ≠ target.quoteAssetId
  quote_eq : target.quoteAssetId = setup.strategy.quoteAssetId

/-- A launch with an intent. -/
structure EligibleLaunch extends DecidedLaunch setup rid where
  intent : RoundTripIntent
  intent_rid : intent.roundtripId = rid
  intent_position : intent.targetPosition = target.position
  intent_asset : intent.assetId = target.assetId
  intent_venue : intent.venueId = target.venueId
  intent_quote : intent.quoteAssetId = target.quoteAssetId
  intent_mode : intent.executionMode = setup.config.executionMode
  intent_delay : intent.sellDelayTransactions = setup.strategy.sellDelayTransactions

/-- A buy with its network price and its account plan. -/
structure PricedBuy extends EligibleLaunch setup rid where
  network : NetworkCostQuote
  plan : AccountReservationPlan
  mintPart : AccountReservationComponent
  walletPart : AccountReservationComponent
  parts : plan.Parts mintPart walletPart
  plan_rid : plan.roundtripId = rid
  plan_mint : plan.mintAssetId = intent.assetId
  mint_full : mintPart.maximumReservedAtomic = mintPart.priced.maximumDepositAtomic
  wallet_full : walletPart.maximumReservedAtomic = 0 ∨
    walletPart.maximumReservedAtomic = walletPart.priced.maximumDepositAtomic
  zero_of_prewarmed :
    setup.config.initialUvaState = .prewarmed → walletPart.maximumReservedAtomic = 0

/-- A buy with its reference quote and the position it lands at. -/
structure SubmittedBuy extends PricedBuy setup rid where
  buyReference : ProtocolQuote
  buyReference_valid : validateBuyQuote intent.toPositionIntent buyReference = .ok ()
  buyPosition : ChainPosition
  buyPosition_eq : setup.clock.transactionAfter target.position
    PUMPFUN_SNIPING_BUY_DELAY_TRANSACTIONS = .ok buyPosition

/-- A buy that has landed, and the position its sell is decided at. -/
structure HeldPosition extends SubmittedBuy setup rid where
  buyFill : ProtocolQuote
  buyFill_valid : validateBuyQuote intent.toPositionIntent buyFill = .ok ()
  buyTimeNs : Nat
  buyTime_eq : setup.clock.blockTimeForPosition buyPosition = .ok buyTimeNs
  walletRecord : AccountComponentRecord
  walletRecord_of : IsLandedRecordOf walletPart rid walletRecord
  decision : ChainPosition
  decision_eq : setup.clock.firstNonemptyTransactionAtOrAfter buyPosition
    (buyTimeNs + PUMPFUN_SNIPING_SELL_DECISION_DELAY_NS) = .ok decision

/-- A sell with its reference quote and the position it lands at. -/
structure SubmittedSell extends HeldPosition setup rid where
  sellReference : ProtocolQuote
  sellReference_valid : validateSellQuote intent.toPositionIntent buyFill.amountOutAtomic
    sellReference = .ok ()
  sellNetwork : NetworkCostQuote
  sellPosition : ChainPosition
  sellPosition_eq : setup.clock.transactionAfter decision setup.strategy.sellDelayTransactions
    = .ok sellPosition

variable {setup rid}

/-! ## Their states -/

def EligibleLaunch.state (l : EligibleLaunch setup rid) : RoundTripState :=
  .eligible l.target l.timeNs (some (l.timeNs + PUMPFUN_SNIPING_COOLDOWN_NS)) l.intent

def PricedBuy.state (b : PricedBuy setup rid) : RoundTripState :=
  b.toEligibleLaunch.state.buyPriced b.network b.plan

def SubmittedBuy.state (b : SubmittedBuy setup rid) : RoundTripState :=
  b.toPricedBuy.state.buyReferenced b.buyReference (buyMinimum b.intent b.buyReference)

/-- The mint record of a position: its deposit is paid. -/
def PricedBuy.lockedMint (b : PricedBuy setup rid) : AccountComponentRecord :=
  componentRecord b.mintPart rid .createdLocked b.mintPart.maximumReservedAtomic 0

def HeldPosition.state (p : HeldPosition setup rid) : RoundTripState :=
  p.toSubmittedBuy.state.buyFilled p.buyPosition p.buyFill [p.lockedMint, p.walletRecord]

def SubmittedSell.state (o : SubmittedSell setup rid) : RoundTripState :=
  o.toHeldPosition.state.sellReferenced o.decision o.sellReference
    (sellMinimum o.intent o.sellReference) o.sellNetwork

/-- What a submitted buy has reserved. -/
def SubmittedBuy.reservation (b : SubmittedBuy setup rid) : AssetAmounts :=
  buyReservation b.intent.toPositionIntent b.network b.plan

/-- What a submitted sell has reserved. -/
def SubmittedSell.reservation (o : SubmittedSell setup rid) : AssetAmounts :=
  sellReservation o.intent.toPositionIntent o.buyFill.amountOutAtomic o.sellNetwork

theorem HeldPosition.acquired_pos (p : HeldPosition setup rid) :
    0 < p.buyFill.amountOutAtomic := p.buyFill.facts.2.2.1

theorem PricedBuy.mint_pos (b : PricedBuy setup rid) : 0 < b.mintPart.maximumReservedAtomic :=
  b.mint_full ▸ b.mintPart.priced.deposit_pos

/-- A plan fits every wallet in which what it did not reserve exists. -/
theorem PricedBuy.fits (b : PricedBuy setup rid) {accounts : WalletProvisioningState}
    (hinit : accounts.initialUvaState = setup.config.initialUvaState)
    (hz : b.walletPart.maximumReservedAtomic = 0 → accounts.uvaExists = true) :
    b.plan.Fits b.mintPart b.walletPart accounts :=
  { b.parts with
    mint_full := b.mint_full
    wallet_full := b.wallet_full
    exists_of_zero := hz
    zero_of_prewarmed := fun hp => b.zero_of_prewarmed (hinit ▸ hp) }

/-- The decision boundary of an intent is that of its launch. -/
theorem EligibleLaunch.createdBoundary (l : EligibleLaunch setup rid) :
    l.intent.createdBoundaryOrdinal = l.target.position.boundaryOrdinal := by
  rw [l.intent.facts.2.2.2.2.2.1, l.intent_position]

/-! ## The states of a round trip -/

/-- A landing that came to nothing: no quote, or one that missed its minimum. -/
structure LandingFailed (valid : ProtocolQuote → Prop) (code : String)
    (landing : Option ProtocolQuote) : Prop where
  stable : stableToken code = true
  quote_valid : ∀ quote ∈ landing, valid quote

variable (setup rid)

/-- The states a round trip can be in. -/
inductive Lawful : RoundTripState → Prop
  | suppressed (l : DecidedLaunch setup rid) {until_ : Nat} (inside : l.timeNs < until_) :
    Lawful (.suppressed l.target l.timeNs (some until_))
  | buyReferenceRejected (b : PricedBuy setup rid) {code : String} {r : AccountComponentRecord}
    (stable : stableToken code = true) (record : IsRecordOf b.walletPart rid 0 0 r) :
    Lawful (b.state.buyReferenceRejected code
      [componentRecord b.mintPart rid .notCreated 0 0, r])
  | buyPreSubmitRejected (b : SubmittedBuy setup rid) {r : AccountComponentRecord}
    (record : IsRecordOf b.walletPart rid 0 0 r) :
    Lawful (b.state.buyPreSubmitRejected [componentRecord b.mintPart rid .notCreated 0 0, r])
  | buyPending (b : SubmittedBuy setup rid) : Lawful b.state
  | buyFailed (b : SubmittedBuy setup rid) {code : String} {landing : Option ProtocolQuote}
    {r : AccountComponentRecord}
    (failed : LandingFailed (fun q => validateBuyQuote b.intent.toPositionIntent q = .ok ()) code
      landing)
    (record : IsRecordOf b.walletPart rid 0 b.walletPart.maximumReservedAtomic r) :
    Lawful (b.state.buyLandedFailed b.buyPosition landing code
      [componentRecord b.mintPart rid .reservationReleased 0 b.mintPart.maximumReservedAtomic, r])
  | holding (p : HeldPosition setup rid) : Lawful p.state
  | sellUnavailable (p : HeldPosition setup rid) {code : String}
    (stable : stableToken code = true) : Lawful (p.state.sellReferenceUnavailable p.decision code)
  | sellPreSubmitRejected (o : SubmittedSell setup rid) : Lawful o.state.sellPreSubmitRejected
  | sellPending (o : SubmittedSell setup rid) : Lawful o.state
  | sellFailed (o : SubmittedSell setup rid) {code : String} {landing : Option ProtocolQuote}
    (failed : LandingFailed (fun q => validateSellQuote o.intent.toPositionIntent
      o.buyFill.amountOutAtomic q = .ok ()) code landing) :
    Lawful (o.state.sellLandedFailed o.sellPosition landing code)
  | closed (o : SubmittedSell setup rid) {landing : ProtocolQuote}
    (valid : validateSellQuote o.intent.toPositionIntent o.buyFill.amountOutAtomic landing
      = .ok ()) :
    Lawful (o.state.sellFilled o.sellPosition landing
      [closedMintRecord o.lockedMint, o.walletRecord])

end Stages

/-! ## What a state says -/

namespace RoundTripState

variable (s : RoundTripState)

/-- The action a round trip waits for. -/
def pending : Option ActionKind :=
  if s.terminal = true then none
  else if s.acquiredTokenAmountAtomic = 0 then some .buyLanding
  else if s.sellReference = none then some .sellDecision
  else some .sellLanding

/-- What the order a round trip waits for has reserved. -/
def reservation : AssetAmounts :=
  match s.pending, s.intent, s.buyNetworkCost, s.accountReservation, s.sellNetworkCost with
  | some .buyLanding, some intent, some network, some plan, _ =>
    buyReservation intent.toPositionIntent network plan
  | some .sellLanding, some intent, _, _, some network =>
    sellReservation intent.toPositionIntent s.acquiredTokenAmountAtomic network
  | _, _, _, _, _ => []

/-- The position the action a round trip waits for is due at. -/
def duePosition (clock : CompactTransactionClock) (sellDelay : Nat) :
    Except Fault ChainPosition :=
  match s.pending, s.buyLandingPosition, s.sellDecisionPosition with
  | some .buyLanding, _, _ =>
    clock.transactionAfter s.target.position PUMPFUN_SNIPING_BUY_DELAY_TRANSACTIONS
  | some .sellDecision, some landing, _ => do
    let timeNs ← clock.blockTimeForPosition landing
    clock.firstNonemptyTransactionAtOrAfter landing
      (timeNs + PUMPFUN_SNIPING_SELL_DECISION_DELAY_NS)
  | some .sellLanding, _, some decision => clock.transactionAfter decision sellDelay
  | _, _, _ => .error (.snipingEngine .internalStateInvalid)

variable {s}

theorem pending_of_terminal (h : s.terminal = true) :
    s.pending = none := if_pos h

theorem reservation_of_terminal (h : s.terminal = true) :
    s.reservation = [] := by
  rw [reservation, pending_of_terminal h]

end RoundTripState

section Projections

variable [DomainDigest] {setup : SnipingSetup} {rid : ContentDigest}

@[simp] theorem SubmittedBuy.pending_eq (b : SubmittedBuy setup rid) :
    b.state.pending = some .buyLanding := rfl

@[simp] theorem HeldPosition.pending_eq (p : HeldPosition setup rid) :
    p.state.pending = some .sellDecision := by
  have hne : p.state.acquiredTokenAmountAtomic ≠ 0 := Nat.ne_of_gt p.acquired_pos
  have hlive : ¬ p.state.terminal = true := Bool.false_ne_true
  rw [RoundTripState.pending, if_neg hlive, if_neg hne]
  rfl

@[simp] theorem SubmittedSell.pending_eq (o : SubmittedSell setup rid) :
    o.state.pending = some .sellLanding := by
  have hne : o.state.acquiredTokenAmountAtomic ≠ 0 := Nat.ne_of_gt o.acquired_pos
  have hlive : ¬ o.state.terminal = true := Bool.false_ne_true
  rw [RoundTripState.pending, if_neg hlive, if_neg hne]
  rfl

@[simp] theorem SubmittedBuy.reservation_eq (b : SubmittedBuy setup rid) :
    b.state.reservation = b.reservation := rfl

@[simp] theorem HeldPosition.reservation_eq (p : HeldPosition setup rid) :
    p.state.reservation = [] := by
  rw [RoundTripState.reservation, p.pending_eq]

@[simp] theorem SubmittedSell.reservation_eq (o : SubmittedSell setup rid) :
    o.state.reservation = o.reservation := by
  rw [RoundTripState.reservation, o.pending_eq]
  rfl

theorem SubmittedBuy.duePosition_eq (b : SubmittedBuy setup rid) :
    b.state.duePosition setup.clock setup.strategy.sellDelayTransactions
      = .ok b.buyPosition := b.buyPosition_eq

theorem HeldPosition.duePosition_eq (p : HeldPosition setup rid) :
    p.state.duePosition setup.clock setup.strategy.sellDelayTransactions = .ok p.decision := by
  have h1 : p.state.buyLandingPosition = some p.buyPosition := rfl
  rw [RoundTripState.duePosition, p.pending_eq, h1]
  simp only [p.buyTime_eq, ok_bind, p.decision_eq]

theorem SubmittedSell.duePosition_eq (o : SubmittedSell setup rid) :
    o.state.duePosition setup.clock setup.strategy.sellDelayTransactions
      = .ok o.sellPosition := by
  have h1 : o.state.sellDecisionPosition = some o.decision := rfl
  rw [RoundTripState.duePosition, o.pending_eq, h1]
  exact o.sellPosition_eq

/-! ## What waits for what -/

theorem Lawful.of_buyLanding {s : RoundTripState} (h : Lawful setup rid s)
    (hp : s.pending = some .buyLanding) : ∃ b : SubmittedBuy setup rid, s = b.state := by
  cases h with
  | buyPending b => exact ⟨b, rfl⟩
  | holding p =>
    rw [p.pending_eq] at hp
    cases hp
  | sellPending o =>
    rw [o.pending_eq] at hp
    cases hp
  | _ => cases hp

theorem Lawful.of_sellDecision {s : RoundTripState} (h : Lawful setup rid s)
    (hp : s.pending = some .sellDecision) : ∃ p : HeldPosition setup rid, s = p.state := by
  cases h with
  | holding p => exact ⟨p, rfl⟩
  | buyPending b => cases hp
  | sellPending o =>
    rw [o.pending_eq] at hp
    cases hp
  | _ => cases hp

theorem Lawful.of_sellLanding {s : RoundTripState} (h : Lawful setup rid s)
    (hp : s.pending = some .sellLanding) : ∃ o : SubmittedSell setup rid, s = o.state := by
  cases h with
  | sellPending o => exact ⟨o, rfl⟩
  | buyPending b => cases hp
  | holding p =>
    rw [p.pending_eq] at hp
    cases hp
  | _ => cases hp

end Projections

end OnchainBacktest
