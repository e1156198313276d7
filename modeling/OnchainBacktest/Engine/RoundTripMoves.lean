import OnchainBacktest.Engine.LedgerBooks
import OnchainBacktest.Engine.RoundTripStages

/-!
# The moves of a round trip

What one action of a run can do to a round trip and to the desk: `Move` has one constructor for
each lawful state a round trip can be moved into.  The order handlers do nothing but such moves
(`move_of_acceptBuy`, `move_of_landBuy`, `move_of_decideSell`, `move_of_landSell`), so what every
move keeps, every run keeps.
-/

set_option autoImplicit false

namespace OnchainBacktest

open Checked

/-- Put an action into the schedule of a desk. -/
def Desk.enqueue {ρ : Type} (desk : Desk ρ) (action : ScheduledAction ρ) : Desk ρ :=
  { desk with scheduled := desk.scheduled.orderedInsert scheduledActionLe action }

/-- Record a fill. -/
def Desk.fill {ρ : Type} (desk : Desk ρ) (fill : Fill) : Desk ρ :=
  { desk with recorder := desk.recorder.appendFill fill }

/-- What a quote leaves as cashback. -/
def cashbackOwed (intent : PositionIntent) (quote : ProtocolQuote) (asset : AssetId) : Int :=
  if intent.quoteAssetId = asset then (quote.cashbackReceivableAtomic : Int) else 0

section Moves

variable [DomainDigest] (setup : SnipingSetup) (rid : ContentDigest)

/-- The action of a round trip that is released at a position. -/
def releasedAt (position : ChainPosition) (kind : ActionKind) (boundary : Nat) :
    ScheduledAction ContentDigest := Desk.newAction position kind boundary rid rid

/-- What one action can do: the state before it, the state after it, and the desk after it. -/
inductive Move (boundary : Nat) (desk : Desk ContentDigest) :
    Option RoundTripState → RoundTripState → Desk ContentDigest → Prop
  | suppressed (l : DecidedLaunch setup rid) {until_ : Nat} (inside : l.timeNs < until_)
    (here : l.target.position.boundaryOrdinal = boundary) :
    Move boundary desk none (.suppressed l.target l.timeNs (some until_))
      (desk.audit (.targetCooldownSkipped boundary l.target.developerId rid))
  | buyReferenceRejected (b : PricedBuy setup rid) {code : String} {r : AccountComponentRecord}
    (stable : stableToken code = true) (record : IsRecordOf b.walletPart rid 0 0 r)
    (here : b.target.position.boundaryOrdinal = boundary)
    (zero : b.walletPart.maximumReservedAtomic = 0 → desk.accounts.uvaExists = true) :
    Move boundary desk none
      (b.state.buyReferenceRejected code [componentRecord b.mintPart rid .notCreated 0 0, r])
      (desk.audit (.buyReferenceRejected boundary rid code))
  | buyPreSubmitRejected (b : SubmittedBuy setup rid) {r : AccountComponentRecord}
    (record : IsRecordOf b.walletPart rid 0 0 r)
    (here : b.target.position.boundaryOrdinal = boundary)
    (zero : b.walletPart.maximumReservedAtomic = 0 → desk.accounts.uvaExists = true) :
    Move boundary desk none
      (b.state.buyPreSubmitRejected [componentRecord b.mintPart rid .notCreated 0 0, r])
      (desk.audit (.buyPreSubmitRejected boundary rid))
  | buyAccepted (b : SubmittedBuy setup rid) {t : LedgerTransaction}
    {applied : Desk ContentDigest} (here : b.target.position.boundaryOrdinal = boundary)
    (zero : b.walletPart.maximumReservedAtomic = 0 → desk.accounts.uvaExists = true)
    (reserves : Reserves t rid b.reservation) (apply : desk.Applied t applied)
    (accounts : applied.accounts = desk.accounts)
    (later : boundary < b.buyPosition.boundaryOrdinal) :
    Move boundary desk none b.state
      ((applied.enqueue (releasedAt rid b.buyPosition .buyLanding boundary)).audit
        (.buyAcceptedAndReserved boundary rid b.buyPosition.boundaryOrdinal b.reservation))
  | buyFailed (b : SubmittedBuy setup rid) {code : String} {landing : Option ProtocolQuote}
    {r : AccountComponentRecord} {t : LedgerTransaction} {applied : Desk ContentDigest}
    (failed : LandingFailed (fun q => validateBuyQuote b.intent.toPositionIntent q = .ok ()) code
      landing)
    (record : IsRecordOf b.walletPart rid 0 b.walletPart.maximumReservedAtomic r)
    (here : b.buyPosition.boundaryOrdinal = boundary)
    (settles : Settles t rid b.reservation [] [] fun _ => 0) (apply : desk.Applied t applied)
    (accounts : applied.accounts = desk.accounts) :
    Move boundary desk (some b.state)
      (b.state.buyLandedFailed b.buyPosition landing code
        [componentRecord b.mintPart rid .reservationReleased 0 b.mintPart.maximumReservedAtomic,
          r])
      (applied.audit (.buyLandedFailedNetworkFeeCharged boundary rid code))
  | buyFilled (p : HeldPosition setup rid) {t : LedgerTransaction}
    {applied : Desk ContentDigest} {fill : Fill}
    (wallet : p.walletRecord = landedWalletRecord desk.accounts p.walletPart rid)
    (here : p.buyPosition.boundaryOrdinal = boundary)
    (settles : Settles t rid p.toSubmittedBuy.reservation [p.lockedMint, p.walletRecord] []
      (cashbackOwed p.intent.toPositionIntent p.buyFill)) (apply : desk.Applied t applied)
    (accounts : applied.accounts
      = landedWalletState desk.accounts p.plan p.mintPart p.walletPart)
    (accounts_valid : applied.accounts.Valid)
    (fill_at : fill.boundaryOrdinal = boundary)
    (later : boundary < p.decision.boundaryOrdinal) :
    Move boundary desk (some p.toSubmittedBuy.state) p.state
      (((applied.fill fill).enqueue (releasedAt rid p.decision .sellDecision boundary)).audit
        (.buyFilled boundary rid p.decision.boundaryOrdinal))
  | sellUnavailable (p : HeldPosition setup rid) {code : String}
    (stable : stableToken code = true) (here : p.decision.boundaryOrdinal = boundary) :
    Move boundary desk (some p.state) (p.state.sellReferenceUnavailable p.decision code)
      (desk.audit (.sellReferenceUnavailable boundary rid code))
  | sellPreSubmitRejected (o : SubmittedSell setup rid)
    (here : o.decision.boundaryOrdinal = boundary) :
    Move boundary desk (some o.toHeldPosition.state) o.state.sellPreSubmitRejected
      (desk.audit (.sellPreSubmitRejected boundary rid))
  | sellAccepted (o : SubmittedSell setup rid) {t : LedgerTransaction}
    {applied : Desk ContentDigest} (here : o.decision.boundaryOrdinal = boundary)
    (reserves : Reserves t rid o.reservation) (apply : desk.Applied t applied)
    (accounts : applied.accounts = desk.accounts)
    (later : boundary < o.sellPosition.boundaryOrdinal) :
    Move boundary desk (some o.toHeldPosition.state) o.state
      ((applied.enqueue (releasedAt rid o.sellPosition .sellLanding boundary)).audit
        (.sellAcceptedAndReserved boundary rid o.sellPosition.boundaryOrdinal))
  | sellFailed (o : SubmittedSell setup rid) {code : String} {landing : Option ProtocolQuote}
    {t : LedgerTransaction} {applied : Desk ContentDigest}
    (failed : LandingFailed (fun q => validateSellQuote o.intent.toPositionIntent
      o.buyFill.amountOutAtomic q = .ok ()) code landing)
    (here : o.sellPosition.boundaryOrdinal = boundary)
    (settles : Settles t rid o.reservation [] [] fun _ => 0) (apply : desk.Applied t applied)
    (accounts : applied.accounts = desk.accounts) :
    Move boundary desk (some o.state) (o.state.sellLandedFailed o.sellPosition landing code)
      (applied.audit (.sellLandedFailedNetworkFeeCharged boundary rid code))
  | closed (o : SubmittedSell setup rid) {landing : ProtocolQuote} {t : LedgerTransaction}
    {applied : Desk ContentDigest} {fill : Fill}
    (valid : validateSellQuote o.intent.toPositionIntent o.buyFill.amountOutAtomic landing
      = .ok ())
    (here : o.sellPosition.boundaryOrdinal = boundary)
    (settles : Settles t rid o.reservation []
      [closedMintRecord o.lockedMint, o.walletRecord]
      (cashbackOwed o.intent.toPositionIntent landing)) (apply : desk.Applied t applied)
    (accounts : applied.accounts = closedWalletState desk.accounts o.intent.assetId)
    (accounts_valid : applied.accounts.Valid)
    (fill_at : fill.boundaryOrdinal = boundary) :
    Move boundary desk (some o.state)
      (o.state.sellFilled o.sellPosition landing
        [closedMintRecord o.lockedMint, o.walletRecord])
      ((applied.fill fill).audit (.sellFilledAndAccountClosed boundary rid
        (applied.recorder.cashflows.amount rid o.intent.quoteAssetId)))

end Moves

/-! ## The records an outcome leaves -/

section Records

variable [DomainDigest] {setup : SnipingSetup} {rid : ContentDigest}
  {accounts : WalletProvisioningState}

theorem PricedBuy.unsubmitted_records (b : PricedBuy setup rid)
    (hinit : accounts.initialUvaState = setup.config.initialUvaState)
    (hz : b.walletPart.maximumReservedAtomic = 0 → accounts.uvaExists = true)
    (he : accounts.uvaExists = true → b.walletPart.maximumReservedAtomic = 0)
    {records : List AccountComponentRecord}
    (h : unsubmittedAccountRecords accounts b.plan = .ok records) :
    ∃ r, records = [componentRecord b.mintPart rid .notCreated 0 0, r] ∧
      IsRecordOf b.walletPart rid 0 0 r := by
  have hfits := b.fits hinit hz
  rw [unsubmittedAccountRecords_eq hfits he, b.plan_rid] at h
  cases h
  refine ⟨_, rfl, IsRecordOf.of_checked ?_⟩
  exact checked_unsubmitted hfits he

theorem PricedBuy.released_records (b : PricedBuy setup rid)
    (hinit : accounts.initialUvaState = setup.config.initialUvaState)
    (hz : b.walletPart.maximumReservedAtomic = 0 → accounts.uvaExists = true)
    {transition : AccountProvisioningTransition}
    (h : applyBuyAccountTransition accounts b.plan false = .ok transition) :
    transition.state = accounts ∧
      ∃ r, transition.records = [componentRecord b.mintPart rid .reservationReleased 0
          b.mintPart.maximumReservedAtomic, r] ∧
        IsRecordOf b.walletPart rid 0 b.walletPart.maximumReservedAtomic r := by
  have hfits := b.fits hinit hz
  have hopen : accounts.mintOpen b.plan.mintAssetId = false := by
    obtain ⟨h1, _⟩ := check_bind_eq_ok.mp h
    simpa using h1
  rw [applyBuyAccountTransition_failed hfits hopen, b.plan_rid] at h
  cases h
  exact ⟨rfl, _, rfl, IsRecordOf.of_checked (checked_released hfits)⟩

theorem PricedBuy.landed_records (b : PricedBuy setup rid) (hv : accounts.Valid)
    (hinit : accounts.initialUvaState = setup.config.initialUvaState)
    (hz : b.walletPart.maximumReservedAtomic = 0 → accounts.uvaExists = true)
    {transition : AccountProvisioningTransition}
    (h : applyBuyAccountTransition accounts b.plan true = .ok transition) :
    transition.state = landedWalletState accounts b.plan b.mintPart b.walletPart ∧
      transition.state.Valid ∧ transition.records = [b.lockedMint, landedWalletRecord accounts b.walletPart rid] ∧
      IsLandedRecordOf b.walletPart rid (landedWalletRecord accounts b.walletPart rid) := by
  have hfits := b.fits hinit hz
  have hopen : accounts.mintOpen b.plan.mintAssetId = false := by
    obtain ⟨h1, _⟩ := check_bind_eq_ok.mp h
    simpa using h1
  rw [applyBuyAccountTransition_landed hfits hv hopen, b.plan_rid] at h
  cases h
  refine ⟨rfl, landedWalletState_valid hfits hv hopen, rfl, ?_⟩
  rw [landedWalletRecord]
  split
  · rename_i existing he
    exact .inl (IsRecordOf.of_checked (checked_existing hfits he))
  · rename_i he
    have hpos : 0 < b.walletPart.maximumReservedAtomic := by
      refine Nat.pos_of_ne_zero fun hzero => ?_
      rw [existingWalletLifecycle_eq_none hfits.wallet, Bool.not_eq_true] at he
      rw [hz hzero] at he
      cases he
    exact .inr ⟨hpos, IsRecordOf.of_checked (checked_createdLocked hpos)⟩

theorem HeldPosition.closed_records (p : HeldPosition setup rid)
    {transition : AccountProvisioningTransition} {mint : AssetId}
    (h : applySellAccountTransition accounts rid mint [p.lockedMint, p.walletRecord] true
      = .ok transition) :
    transition.state = closedWalletState accounts mint ∧ transition.state.Valid ∧
      transition.records = [closedMintRecord p.lockedMint, p.walletRecord] := by
  have hmint : p.lockedMint.scope = .mint := p.parts.mint
  have hwallet : p.walletRecord.scope = .wallet := p.walletRecord_of.scope_eq.trans p.parts.wallet
  exact applySellAccountTransition_eq_ok hmint hwallet h

end Records

/-! ## What has happened to the orders -/

namespace RoundTripState

variable (s : RoundTripState)

/-- Its buy was accepted. -/
def buyAccepted : Bool :=
  s.pending == some .buyLanding || s.status == .buyLandedFailed ||
    decide (0 < s.acquiredTokenAmountAtomic)

/-- Its buy landed without a fill. -/
def buyMissed : Bool := s.status == .buyLandedFailed

/-- Its buy was filled. -/
def bought : Bool := decide (0 < s.acquiredTokenAmountAtomic)

/-- Its sell was accepted. -/
def sellAccepted : Bool :=
  s.pending == some .sellLanding || s.status == .sellLandedFailedOpen || s.status == .closed

/-- Its sell landed without a fill. -/
def sellMissed : Bool := s.status == .sellLandedFailedOpen

/-- Its sell was filled. -/
def sold : Bool := s.status == .closed

end RoundTripState

theorem stableToken_minimumOutput : stableToken "MINIMUM_OUTPUT_NOT_MET" = true := by decide

/-- A landing is refused with a stable code, and keeps only a quote it has checked. -/
theorem LandingRefused.failed {quoted : Except Fault ProtocolQuote}
    {validate : ProtocolQuote → Except Fault Unit} {minimum : Nat} {code : String}
    {landing : Option ProtocolQuote} (hstops : Stops ProtocolFault quoted)
    (h : LandingRefused quoted validate minimum code landing) :
    LandingFailed (fun q => validate q = .ok ()) code landing := by
  cases h with
  | rejected hq => exact ⟨(hstops _ hq).2 code rfl, by simp⟩
  | belowMinimum _ hv _ =>
    refine ⟨stableToken_minimumOutput, fun quote hmem => ?_⟩
    cases hmem
    exact hv

section Derivations

variable [DomainDigest] {setup : SnipingSetup} {rid : ContentDigest} {curves : Curves}
  {desk : Desk ContentDigest} {boundary : Nat} {handled : Handled ContentDigest}

/-! ## Accepting a buy -/

theorem BuyPriced.exists_pricedBuy {l : EligibleLaunch setup rid} {market : Market}
    {intent : RoundTripIntent} {network : NetworkCostQuote} {plan : AccountReservationPlan}
    (h : BuyPriced market desk l.state intent network plan)
    (hinit : desk.accounts.initialUvaState = setup.config.initialUvaState) :
    ∃ b : PricedBuy setup rid, b.toEligibleLaunch = l ∧ b.intent = intent ∧
      b.network = network ∧ b.plan = plan ∧
      (b.walletPart.maximumReservedAtomic = 0 ↔ desk.accounts.uvaExists = true) := by
  have hintent : l.intent = intent := Option.some.inj h.intent_eq
  obtain ⟨hrid, hmint, _, m, w, hfits, he⟩ := prepareAccountReservation_eq_ok h.plan_eq
  refine ⟨{ l with
    network := network
    plan := plan
    mintPart := m
    walletPart := w
    parts := hfits.toParts
    plan_rid := hrid.trans (hintent ▸ l.intent_rid)
    plan_mint := hmint.trans (hintent ▸ rfl)
    mint_full := hfits.mint_full
    wallet_full := hfits.wallet_full
    zero_of_prewarmed := fun hp => hfits.zero_of_prewarmed (hinit.trans hp) }, rfl, hintent, rfl,
    rfl, hfits.exists_of_zero, he⟩

theorem BuyReferenced.exists_submittedBuy {l : EligibleLaunch setup rid} {intent : RoundTripIntent}
    {network : NetworkCostQuote} {plan : AccountReservationPlan} {reference : ProtocolQuote}
    {landing : ChainPosition}
    (h : BuyReferenced (setup.market curves) desk l.state intent network plan reference landing)
    (hinit : desk.accounts.initialUvaState = setup.config.initialUvaState) :
    ∃ b : SubmittedBuy setup rid, b.toEligibleLaunch = l ∧ b.intent = intent ∧
      b.network = network ∧ b.plan = plan ∧ b.buyReference = reference ∧
      b.buyPosition = landing ∧
      (b.walletPart.maximumReservedAtomic = 0 ↔ desk.accounts.uvaExists = true) := by
  obtain ⟨b, rfl, rfl, rfl, rfl, hz⟩ := h.toBuyPriced.exists_pricedBuy hinit
  have hlanding := h.landing_eq
  rw [b.intent_position, b.intent.facts.2.2.2.2.2.2.1] at hlanding
  exact ⟨{ b with
    buyReference := reference
    buyReference_valid := h.valid
    buyPosition := landing
    buyPosition_eq := hlanding }, rfl, rfl, rfl, rfl, rfl, rfl, hz⟩

/-- What a buy that was decided says of its launch. -/
structure Entered (l : EligibleLaunch setup rid) (handled : Handled ContentDigest) : Prop where
  target_eq : handled.state.target = l.target
  time_eq : handled.state.targetTimeNs = l.timeNs
  entered : handled.state.status ≠ .cooldownSkipped
  succeeded_eq : handled.succeeded = handled.state.buyAccepted

/-- **Accepting a buy is a move.** -/
theorem move_of_acceptBuy (l : EligibleLaunch setup rid)
    (hinit : desk.accounts.initialUvaState = setup.config.initialUvaState)
    (here : l.target.position.boundaryOrdinal = boundary)
    (h : acceptBuy (setup.market curves) rid desk l.state = .ok handled) :
    Move setup rid boundary desk none handled.state handled.desk ∧ Entered l handled := by
  cases acceptBuy_cases h with
  | @referenceRejected intent network plan code records priced rejected records_eq =>
    obtain ⟨b, rfl, rfl, rfl, rfl, hz⟩ := priced.exists_pricedBuy hinit
    obtain ⟨r, rfl, hr⟩ := b.unsubmitted_records hinit hz.mp hz.mpr records_eq
    have hstable := (setup.protocol.view_sound.buy_stops _ _ _ rejected).2 code rfl
    rw [b.createdBoundary, here, b.intent_rid]
    exact ⟨.buyReferenceRejected b hstable hr here hz.mp, rfl, rfl, nofun, rfl⟩
  | @fundsRejected intent network plan reference landing records quoted records_eq =>
    obtain ⟨b, rfl, rfl, rfl, rfl, rfl, rfl, hz⟩ := quoted.exists_submittedBuy hinit
    obtain ⟨r, rfl, hr⟩ := b.unsubmitted_records hinit hz.mp hz.mpr records_eq
    rw [b.createdBoundary, here, b.intent_rid]
    exact ⟨.buyPreSubmitRejected b hr here hz.mp, rfl, rfl, nofun, rfl⟩
  | @accepted intent network plan reference landing t applied scheduled quoted funded reserve apply
      schedule =>
    obtain ⟨b, rfl, rfl, rfl, rfl, rfl, rfl, hz⟩ := quoted.exists_submittedBuy hinit
    obtain ⟨happlied, haccounts⟩ := Desk.applyTransaction_eq_ok apply
    have hreserves := reserveBuy_eq_ok reserve
    rw [b.createdBoundary, here, b.intent_rid] at schedule
    rw [b.intent_rid] at hreserves
    obtain ⟨hlater, rfl⟩ := Desk.schedule_eq_ok.mp schedule
    rw [b.createdBoundary, here, b.intent_rid]
    exact ⟨.buyAccepted b here hz.mp hreserves happlied haccounts hlater, rfl, rfl, nofun, rfl⟩

/-! ## Landing a buy -/

/-- **Landing a buy is a move.** -/
theorem move_of_landBuy (b : SubmittedBuy setup rid) (hv : desk.accounts.Valid)
    (hinit : desk.accounts.initialUvaState = setup.config.initialUvaState)
    (hz : b.walletPart.maximumReservedAtomic = 0 → desk.accounts.uvaExists = true)
    (here : b.buyPosition.boundaryOrdinal = boundary)
    (h : landBuy (setup.market curves) rid desk b.state b.buyPosition = .ok handled) :
    Move setup rid boundary desk (some b.state) handled.state handled.desk ∧
      (!handled.succeeded) = handled.state.buyMissed := by
  have hfee : SolanaSnipingCostModel.feeCollectorAccountId.kind = .networkFee := rfl
  have hview : ProtocolView.Sound (setup.protocol.view curves) := setup.protocol.view_sound
  cases landBuy_cases h with
  | @failed intent network plan timeNs code landing transition t applied order refused accounts
      settle apply =>
    obtain rfl : b.intent = intent := Option.some.inj order.intent_eq
    obtain rfl : b.network = network := Option.some.inj order.network_eq
    obtain rfl : b.plan = plan := Option.some.inj order.plan_eq
    obtain ⟨hstate, r, hrecords, hr⟩ := b.released_records hinit hz accounts
    obtain ⟨happlied, haccounts⟩ := Desk.applyTransactionWithAccounts_eq_ok apply
    have hsettles := failedBuySettlement_eq_ok hfee settle
    rw [b.intent_rid] at hsettles
    rw [here, b.intent_rid, hrecords]
    exact ⟨.buyFailed b (refused.failed (hview.buy_stops _ _)) hr here hsettles happlied
      (haccounts.trans hstate), rfl⟩
  | @filled intent network plan timeNs landing transition t applied scheduled fill decision order
      quoted valid accounts settle apply fill_eq decision_eq schedule =>
    obtain rfl : b.intent = intent := Option.some.inj order.intent_eq
    obtain rfl : b.network = network := Option.some.inj order.network_eq
    obtain rfl : b.plan = plan := Option.some.inj order.plan_eq
    obtain ⟨hstate, hvalid, hrecords, hwallet⟩ := b.landed_records hv hinit hz accounts
    obtain ⟨happlied, haccounts⟩ := Desk.applyTransactionWithAccounts_eq_ok apply
    have hsettles := successfulBuySettlement_eq_ok hfee (hview.buy quoted) settle
    rw [b.intent.facts.2.2.2.2.2.2.2.1] at decision_eq
    rw [here, b.intent_rid] at schedule
    rw [b.intent_rid, hrecords] at hsettles
    obtain ⟨hlater, rfl⟩ := Desk.schedule_eq_ok.mp schedule
    have hfill := Fill.checked_eq_ok fill_eq
    rw [here, b.intent_rid, hrecords]
    let p : HeldPosition setup rid :=
      { b with
        buyFill := landing
        buyFill_valid := valid
        buyTimeNs := timeNs
        buyTime_eq := order.time
        walletRecord := landedWalletRecord desk.accounts b.walletPart rid
        walletRecord_of := hwallet
        decision := decision
        decision_eq := decision_eq }
    refine ⟨.buyFilled p rfl here hsettles happlied (haccounts.trans hstate) ?_ ?_ hlater, rfl⟩
    · rw [haccounts]
      exact hvalid
    · rw [hfill]
      exact here

/-! ## Deciding a sell -/

theorem SellReferenced.exists_submittedSell {p : HeldPosition setup rid} {intent : RoundTripIntent}
    {timeNs : Nat} {reference : ProtocolQuote} {landing : ChainPosition}
    {network : NetworkCostQuote}
    (h : SellReferenced (setup.market curves) desk p.state p.decision intent timeNs reference
      landing network) :
    ∃ o : SubmittedSell setup rid, o.toHeldPosition = p ∧ o.intent = intent ∧
      o.sellReference = reference ∧ o.sellPosition = landing ∧ o.sellNetwork = network := by
  obtain rfl : p.intent = intent := Option.some.inj h.intent_eq
  have hlanding := h.landing_eq
  rw [p.intent_delay] at hlanding
  exact ⟨{ p with
    sellReference := reference
    sellReference_valid := h.valid
    sellNetwork := network
    sellPosition := landing
    sellPosition_eq := hlanding }, rfl, rfl, rfl, rfl, rfl⟩

/-- **Deciding a sell is a move.** -/
theorem move_of_decideSell (p : HeldPosition setup rid)
    (here : p.decision.boundaryOrdinal = boundary)
    (h : decideSell (setup.market curves) rid desk p.state p.decision = .ok handled) :
    Move setup rid boundary desk (some p.state) handled.state handled.desk := by
  cases decideSell_cases h with
  | @unavailable intent timeNs code order rejected =>
    obtain rfl : p.intent = intent := Option.some.inj order.intent_eq
    have hstable := (setup.protocol.view_sound.sell_stops _ _ _ _ rejected).2 code rfl
    rw [here, p.intent_rid]
    exact .sellUnavailable p hstable here
  | fundsRejected quoted =>
    obtain ⟨o, rfl, rfl, rfl, rfl, rfl⟩ := quoted.exists_submittedSell
    rw [here, o.intent_rid]
    exact .sellPreSubmitRejected o here
  | @accepted intent timeNs reference landing network t applied scheduled quoted funded reserve
      apply schedule =>
    obtain ⟨o, rfl, rfl, rfl, rfl, rfl⟩ := quoted.exists_submittedSell
    obtain ⟨happlied, haccounts⟩ := Desk.applyTransaction_eq_ok apply
    have hreserves := reserveSell_eq_ok reserve
    rw [o.intent_rid] at hreserves
    rw [here, o.intent_rid] at schedule
    obtain ⟨hlater, rfl⟩ := Desk.schedule_eq_ok.mp schedule
    rw [here, o.intent_rid]
    exact .sellAccepted o here hreserves happlied haccounts hlater

/-! ## Landing a sell -/

/-- **Landing a sell is a move.** -/
theorem move_of_landSell (o : SubmittedSell setup rid)
    (here : o.sellPosition.boundaryOrdinal = boundary)
    (h : landSell (setup.market curves) desk o.state o.sellPosition = .ok handled) :
    Move setup rid boundary desk (some o.state) handled.state handled.desk ∧
      (!handled.succeeded) = handled.state.sellMissed := by
  have hfee : SolanaSnipingCostModel.feeCollectorAccountId.kind = .networkFee := rfl
  have hview : ProtocolView.Sound (setup.protocol.view curves) := setup.protocol.view_sound
  cases landSell_cases h with
  | @failed intent network timeNs code landing t applied order refused settle apply =>
    obtain rfl : o.intent = intent := Option.some.inj order.intent_eq
    obtain rfl : o.sellNetwork = network := Option.some.inj order.network_eq
    obtain ⟨happlied, haccounts⟩ := Desk.applyTransaction_eq_ok apply
    have hsettles := failedSellSettlement_eq_ok hfee settle
    rw [o.intent_rid] at hsettles
    rw [here, o.intent_rid]
    exact ⟨.sellFailed o (refused.failed (hview.sell_stops _ _ _)) here hsettles happlied haccounts,
      rfl⟩
  | @filled intent network timeNs landing transition t applied fill order quoted valid accounts
      settle apply fill_eq =>
    obtain rfl : o.intent = intent := Option.some.inj order.intent_eq
    obtain rfl : o.sellNetwork = network := Option.some.inj order.network_eq
    rw [o.intent_rid] at accounts
    obtain ⟨hstate, hvalid, hrecords⟩ := o.closed_records accounts
    obtain ⟨happlied, haccounts⟩ := Desk.applyTransactionWithAccounts_eq_ok apply
    have hsettles := successfulSellSettlement_eq_ok hfee (hview.sell quoted) settle
    rw [o.intent_rid, hrecords] at hsettles
    have hfill := Fill.checked_eq_ok fill_eq
    rw [here, o.intent_rid, hrecords]
    refine ⟨.closed o valid here hsettles happlied (haccounts.trans hstate) ?_ ?_, rfl⟩
    · rw [haccounts]
      exact hvalid
    · rw [hfill]
      exact here

end Derivations

end OnchainBacktest
