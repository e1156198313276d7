import OnchainBacktest.Lib.Dict
import OnchainBacktest.Plugins.PumpPayload

/-!
# The Pump.fun protocol runtime

The curves a replay has built so far, how a historical group changes them, and how a curve answers
the engine: `applyHistoricalGroup`, the quotes, and the accounts an order needs.

A group is applied to a copy of the curves, so a group that is refused leaves them as they were.

What the engine relies on is stated once, for every quote the runtime gives: it is routed to
accounts of the right kinds (`Routed`), it answers the intent it was asked for, and a refusal is
either an expected rejection with a stable code or a contract error.
-/

set_option autoImplicit false

namespace OnchainBacktest

open Checked

def PUMPFUN_PROTOCOL_NAME : String := "pumpfun"

def PUMPFUN_LAUNCH_PAYLOAD_SCHEMA_ID : ProtocolPayloadSchemaId := ⟨"pump-launch-state-v1"⟩

def PUMPFUN_TRADE_PAYLOAD_SCHEMA_ID : ProtocolPayloadSchemaId := ⟨"pump-trade-state-v1"⟩

def PUMPFUN_LIFECYCLE_PAYLOAD_SCHEMA_ID : ProtocolPayloadSchemaId := ⟨"pump-lifecycle-state-v1"⟩

def PUMPFUN_LEGACY_ATA_SCHEMA_ID : String := "solana-associated-token-account-legacy-v1"

def PUMPFUN_TOKEN_2022_ATA_SCHEMA_ID : String :=
  "solana-associated-token-account-token-2022-immutable-owner-v1"

def PUMPFUN_UVA_SCHEMA_ID : String := "pumpfun-user-volume-accumulator-v1"

/-! ## Accounts -/

def mintAccountRequirement (ataSchema : String) (h : stableName ataSchema = true) :
    AccountRequirement :=
  ⟨ataSchema, .mint, .closeOnSuccessfulSell, h, rfl⟩

def walletAccountRequirement : AccountRequirement :=
  ⟨PUMPFUN_UVA_SCHEMA_ID, .wallet, .runLocked, by decide, rfl⟩

/-- One mode-specific mint account and the one wallet-scoped accumulator. -/
def pumpfunAccountRequirements (mode : PumpMode) : Except Fault (List AccountRequirement) :=
  let requirements (mint : AccountRequirement) :=
    [mint, walletAccountRequirement].insertionSort fun a b => accountRequirementLe a b = true
  match mode with
  | .normal => .ok (requirements
      (mintAccountRequirement PUMPFUN_LEGACY_ATA_SCHEMA_ID (by decide)))
  | .token2022 | .cashback => .ok (requirements
      (mintAccountRequirement PUMPFUN_TOKEN_2022_ATA_SCHEMA_ID (by decide)))
  | .mayhem => .error (.protocolContract .excludedProgramMode)
  | .unknown => .error (.protocolContract .unknownProgramMode)

/-! ## Quote errors -/

/-- The fault a quote error is raised again as. -/
def mappedQuoteError : PumpQuoteErrorCode → Fault
  | .profileNotEffective => .protocolContract .profileNotEffective
  | .unknownMode => .protocolContract .unknownProgramMode
  | .unknownLifecycle => .protocolContract .unknownLifecycle
  | .unsupportedProgramVersion => .protocolContract .unsupportedProtocolVersion
  | .unsupportedFormulaVersion => .protocolContract .unsupportedProtocolVersion
  | code => .executionRejected code.value

/-- `except PumpQuoteError as error: _raise_mapped_quote_error(error)`. -/
def mapQuoteError {α : Type} : Except Fault α → Except Fault α
  | .error (.pumpQuote code) => .error (mappedQuoteError code)
  | other => other

/-! ## Curves -/

structure CurveRecord where
  assetId : AssetId
  quoteAssetId : AssetId
  state : PumpCurveStateV1
  lastActiveState : Option PumpCurveStateV1
  lastActiveEffectiveAtUnixS : Option Nat

abbrev Curves := Dict VenueId CurveRecord

/-- The resolved configuration of the runtime. -/
structure PumpfunSnipingProtocolRuntime where
  quoteAssetId : AssetId
  feeProfile : PumpFeeProfile
  protocolVersion : String
  version_trimmed : nonemptyTrimmed protocolVersion = true

def requireCurve (curves : Curves) (venueId : VenueId) : Except Fault CurveRecord :=
  match curves.get? venueId with
  | some record => .ok record
  | none => .error (.protocolContract .unknownVenue)

def requireKnownState (state : PumpCurveStateV1) : Except Fault Unit := do
  refuseIf (state.mode = .unknown) (.protocolContract .unknownProgramMode)
  refuseIf (state.lifecycle = .unknown) (.protocolContract .unknownLifecycle)

/-- Defend the execution boundary against launches excluded during preparation. -/
def requireEligibleLaunchState (state : PumpCurveStateV1) : Except Fault Unit := do
  requireKnownState state
  refuseIf (state.mode = .mayhem) (.protocolContract .excludedProgramMode)
  refuseIf (state.lifecycle ≠ .active) (.protocolContract .unknownLifecycle)

/-- The lifecycle a venue lifecycle event has to leave the curve in. -/
def expectedLifecycle : VenueLifecycleKind → Option PumpCurveLifecycle
  | .completed => some .completed
  | .migrated => some .migrated
  | .closed => none

namespace PumpfunSnipingProtocolRuntime

variable (runtime : PumpfunSnipingProtocolRuntime)

/-- A launch opens its curve and is a target. -/
def applyLaunch (effectiveAtUnixS : Nat) (candidate : Curves) (event : TokenLaunchEvent) :
    Except Fault (Curves × LaunchTarget) := do
  refuseIf (event.protocolPayloadSchema ≠ PUMPFUN_LAUNCH_PAYLOAD_SCHEMA_ID)
    (.protocolContract .unsupportedPayloadSchema)
  refuseIf (event.quoteAssetId ≠ runtime.quoteAssetId) (.protocolContract .nonSupportedQuoteAsset)
  refuseIf (candidate.get? event.venueId ≠ none) (.protocolContract .inconsistentVenueIdentity)
  let state ← decodeState event.protocolPayload
  requireEligibleLaunchState state
  .ok (candidate.set event.venueId
      ⟨event.assetId, event.quoteAssetId, state, some state, some effectiveAtUnixS⟩,
    ⟨event.envelope.canonicalEventId, event.envelope.position, event.assetId, event.developerId,
      event.creationUserId, event.venueId, event.quoteAssetId⟩)

/-- A trade moves its curve; an active state is remembered with its time. -/
def applyTrade (effectiveAtUnixS : Nat) (candidate : Curves) (event : VenueTradeEvent) :
    Except Fault Curves := do
  refuseIf (event.protocolPayloadSchema ≠ PUMPFUN_TRADE_PAYLOAD_SCHEMA_ID)
    (.protocolContract .unsupportedPayloadSchema)
  let record ← requireCurve candidate event.venueId
  refuseIf (¬ (event.soldAssetId = record.assetId ∧ event.boughtAssetId = record.quoteAssetId ∨
      event.soldAssetId = record.quoteAssetId ∧ event.boughtAssetId = record.assetId))
    (.protocolContract .inconsistentVenueIdentity)
  let state ← decodeState event.protocolPayload
  requireKnownState state
  .ok (candidate.set event.venueId
    { record with
      state := state
      lastActiveState := if state.lifecycle = .active then some state else record.lastActiveState
      lastActiveEffectiveAtUnixS :=
        if state.lifecycle = .active then some effectiveAtUnixS
        else record.lastActiveEffectiveAtUnixS })

/-- A lifecycle event moves its curve into the state its kind names. -/
def applyLifecycle (candidate : Curves) (event : VenueLifecycleEvent) : Except Fault Curves := do
  refuseIf (event.protocolPayloadSchema ≠ PUMPFUN_LIFECYCLE_PAYLOAD_SCHEMA_ID)
    (.protocolContract .unsupportedPayloadSchema)
  let record ← requireCurve candidate event.venueId
  let state ← decodeState event.protocolPayload
  requireKnownState state
  refuseIf (expectedLifecycle event.lifecycleKind ≠ some state.lifecycle)
    (.protocolContract .unknownLifecycle)
  .ok (candidate.set event.venueId { record with state := state })

/-- One event of a group. -/
def applyEvent (effectiveAtUnixS : Nat) (candidate : Curves × List LaunchTarget)
    (event : CanonicalEvent) : Except Fault (Curves × List LaunchTarget) :=
  match event with
  | .block _ => .ok candidate
  | event =>
    if event.envelope.protocol ≠ PUMPFUN_PROTOCOL_NAME then .ok candidate
    else do
      refuseIf (event.envelope.protocolVersion ≠ runtime.protocolVersion)
        (.protocolContract .unsupportedProtocolVersion)
      refuseIf (event.envelope.orderingFidelity ≠ .instructionExact)
        (.protocolContract .inconsistentVenueIdentity)
      match event with
      | .block _ => .ok candidate
      | .tokenLaunch launch => do
        let (curves, target) ← runtime.applyLaunch effectiveAtUnixS candidate.1 launch
        .ok (curves, candidate.2 ++ [target])
      | .venueTrade trade => do
        let curves ← applyTrade effectiveAtUnixS candidate.1 trade
        .ok (curves, candidate.2)
      | .venueLifecycle lifecycle => do
        let curves ← applyLifecycle candidate.1 lifecycle
        .ok (curves, candidate.2)

/-- Apply one historical group to the curves; the launches are in the order of the events. -/
def applyHistoricalGroup (curves : Curves) (events : List CanonicalEvent)
    (effectiveAtUnixS : Nat) : Except Fault (Curves × List LaunchTarget) :=
  match events with
  | [] => .error (.value "historical group must be non-empty")
  | first :: rest => do
    refuseIf (∃ event ∈ rest, event.envelope.boundaryOrdinal ≠ first.envelope.boundaryOrdinal ∨
        event.envelope.transactionGroupId ≠ first.envelope.transactionGroupId)
      (.protocolContract .inconsistentVenueIdentity)
    (first :: rest).foldlM (runtime.applyEvent effectiveAtUnixS) (curves, [])

end PumpfunSnipingProtocolRuntime

/-! ## Quotes -/

section Quotes

variable [DomainDigest]

/-- The quote of a buy as the engine sees it. -/
def buyContract (intent : PositionIntent) (quote : PumpBuyQuote) : Except Fault ProtocolQuote :=
  ProtocolQuote.make
    { side := .buy
      inputAssetId := intent.quoteAssetId
      outputAssetId := intent.assetId
      amountInAtomic := quote.grossSolSpentLamports
      amountOutAtomic := quote.tokensOutAtomic
      venueInputAtomic := quote.netCurveSolLamports
      venueOutputAtomic := quote.tokensOutAtomic
      protocolFeeAtomic := quote.fees.protocolFeeLamports
      creatorFeeAtomic := quote.fees.creatorFeeLamports
      cashbackReceivableAtomic := quote.fees.cashbackReceivableLamports.getD 0
      protocolFeeAccountId := .protocolFee intent.venueId quote.fees.routing.protocolFeeRoute.lower
      creatorFeeAccountId := .creatorFee intent.venueId quote.fees.routing.creatorFeeRoute.lower
      cashbackSourceAccountId :=
        .cashbackSource intent.venueId quote.fees.routing.creatorFeeRoute.lower
      liquidityEvidence := none }

/-- Only an actual deficit has a funding account. -/
def syntheticFundingAccount (intent : PositionIntent) (shortfall : Nat) :
    Except Fault (Option AccountId) :=
  if 0 < shortfall then do
    let account ← syntheticLiquidityAccountId PUMPFUN_PROTOCOL_NAME
      intent.targetPosition.networkId intent.venueId
    .ok (some account)
  else .ok none

/-- The quote of a sell as the engine sees it. -/
def sellContract (intent : PositionIntent) (quote : PumpSellQuote) : Except Fault ProtocolQuote := do
  let syntheticAccount ← syntheticFundingAccount intent quote.syntheticShortfallLamports
  let evidence ← ProtocolLiquidityEvidence.make
    { policyId := quote.liquidityPolicy.value
      assetId := intent.quoteAssetId
      requiredOutputAtomic := quote.grossCurveSolLamports
      observedAvailableOutputAtomic := quote.observedRealSolReservesLamports
      syntheticShortfallAtomic := quote.syntheticShortfallLamports
      syntheticSourceAccountId := syntheticAccount }
  ProtocolQuote.make
    { side := .sell
      inputAssetId := intent.assetId
      outputAssetId := intent.quoteAssetId
      amountInAtomic := quote.tokensInAtomic
      amountOutAtomic := quote.solOutLamports
      venueInputAtomic := quote.tokensInAtomic
      venueOutputAtomic := quote.grossCurveSolLamports
      protocolFeeAtomic := quote.fees.protocolFeeLamports
      creatorFeeAtomic := quote.fees.creatorFeeLamports
      cashbackReceivableAtomic := quote.fees.cashbackReceivableLamports.getD 0
      protocolFeeAccountId := .protocolFee intent.venueId quote.fees.routing.protocolFeeRoute.lower
      creatorFeeAccountId := .creatorFee intent.venueId quote.fees.routing.creatorFeeRoute.lower
      cashbackSourceAccountId :=
        .cashbackSource intent.venueId quote.fees.routing.creatorFeeRoute.lower
      liquidityEvidence := some evidence }

/-- Map the closed execution modes to the exact sell semantics. -/
def sellLiquidityPolicy (mode : ExecutionMode) : Except Fault PumpSellLiquidityPolicy := do
  let policyId ← liquidityPolicyIdForExecutionMode mode
  if policyId = PumpSellLiquidityPolicy.realReserveCappedV1.value then .ok .realReserveCappedV1
  else .ok .virtualReserveOutputWithExplicitSyntheticShortfallV1

namespace PumpfunSnipingProtocolRuntime

variable (runtime : PumpfunSnipingProtocolRuntime)

def intentCurve (curves : Curves) (intent : PositionIntent) : Except Fault CurveRecord := do
  let record ← requireCurve curves intent.venueId
  refuseIf (record.assetId ≠ intent.assetId ∨ record.quoteAssetId ≠ intent.quoteAssetId ∨
      record.quoteAssetId ≠ runtime.quoteAssetId) (.protocolContract .inconsistentVenueIdentity)
  .ok record

def quoteBuyState (intent : PositionIntent) (state : PumpCurveStateV1) (effectiveAtUnixS : Nat) :
    Except Fault ProtocolQuote := do
  let quote ← mapQuoteError
    (buyQuote state intent.grossBuyBudgetAtomic runtime.feeProfile effectiveAtUnixS)
  buyContract intent quote

def quoteSellState (intent : PositionIntent) (state : PumpCurveStateV1) (tokensInAtomic : Nat)
    (effectiveAtUnixS : Nat) : Except Fault ProtocolQuote := do
  let policy ← sellLiquidityPolicy intent.executionMode
  let quote ← mapQuoteError
    (sellQuote state tokensInAtomic runtime.feeProfile effectiveAtUnixS policy)
  sellContract intent quote

def accountRequirements (curves : Curves) (intent : PositionIntent) :
    Except Fault (List AccountRequirement) := do
  let record ← runtime.intentCurve curves intent
  pumpfunAccountRequirements record.state.mode

def quoteBuy (curves : Curves) (intent : PositionIntent) (effectiveAtUnixS : Nat) :
    Except Fault ProtocolQuote := do
  let record ← runtime.intentCurve curves intent
  runtime.quoteBuyState intent record.state effectiveAtUnixS

def quoteSell (curves : Curves) (intent : PositionIntent) (tokensInAtomic : Nat)
    (effectiveAtUnixS : Nat) : Except Fault ProtocolQuote := do
  let record ← runtime.intentCurve curves intent
  runtime.quoteSellState intent record.state tokensInAtomic effectiveAtUnixS

/-- A live curve is valued as it stands, a migrated one as it last was when active. -/
def valuationQuote (curves : Curves) (intent : PositionIntent) (tokensInAtomic : Nat)
    (effectiveAtUnixS : Nat) : Except Fault (Option ValuationQuote) := do
  let record ← runtime.intentCurve curves intent
  if record.state.lifecycle = .active then
    let quote ← runtime.quoteSell curves intent tokensInAtomic effectiveAtUnixS
    .ok (some ⟨quote, false⟩)
  else
    match record.state.lifecycle, record.lastActiveState with
    | .migrated, some lastActiveState =>
      match record.lastActiveEffectiveAtUnixS with
      | none => .error (.protocolContract .unknownLifecycle)
      | some lastActiveEffectiveAtUnixS => do
        let quote ← runtime.quoteSellState intent lastActiveState tokensInAtomic
          lastActiveEffectiveAtUnixS
        .ok (some ⟨quote, true⟩)
    | _, _ => .ok none

/-- The runtime with its curves, as the engine sees it. -/
def view (curves : Curves) : ProtocolView where
  accountRequirements intent := runtime.accountRequirements curves intent.toPositionIntent
  quoteBuy := runtime.quoteBuy curves
  quoteSell := runtime.quoteSell curves
  valuationQuote := runtime.valuationQuote curves

end PumpfunSnipingProtocolRuntime

end Quotes

/-! ## What the engine can rely on -/

theorem protocolFault_mappedQuoteError (code : PumpQuoteErrorCode) :
    ProtocolFault (mappedQuoteError code) := by
  refine ⟨fun _ h => ?_, fun token h => ?_⟩
  · cases code <;> cases h
  · cases code <;> cases h <;> decide

theorem protocolFault_value (message : String) : ProtocolFault (.value message) :=
  ⟨fun _ h => (nomatch h), fun _ h => (nomatch h)⟩

theorem protocolFault_contract (code : ProtocolContractErrorCode) :
    ProtocolFault (.protocolContract code) :=
  ⟨fun _ h => (nomatch h), fun _ h => (nomatch h)⟩

theorem mapQuoteError_eq_ok {α : Type} {x : Except Fault α} {a : α} :
    mapQuoteError x = .ok a ↔ x = .ok a := by
  match x with
  | .ok _ => simp [mapQuoteError]
  | .error e => cases e <;> simp [mapQuoteError]

theorem ProtocolQuote.make_eq_ok {fields : ProtocolQuoteFields} {quote : ProtocolQuote}
    (h : ProtocolQuote.make fields = .ok quote) : quote.toProtocolQuoteFields = fields := by
  obtain ⟨_, rfl⟩ := construct_eq_ok.mp h
  rfl

theorem ProtocolLiquidityEvidence.make_eq_ok {fields : ProtocolLiquidityEvidenceFields}
    {evidence : ProtocolLiquidityEvidence}
    (h : ProtocolLiquidityEvidence.make fields = .ok evidence) :
    evidence.toProtocolLiquidityEvidenceFields = fields := by
  obtain ⟨_, rfl⟩ := construct_eq_ok.mp h
  rfl

theorem stops_quoteMake (fields : ProtocolQuoteFields) :
    Stops ProtocolFault (ProtocolQuote.make fields) := by
  intro e he
  rw [ProtocolQuote.make, construct_eq_error] at he
  refine Stops.bind ?_ ?_ e he
  · exact stops_refuseIf fun _ => protocolFault_value _
  intro _ _
  iterate 2 refine (stops_refuseIf fun _ => protocolFault_value _).bind fun _ _ => ?_
  cases fields.side with
  | buy =>
    iterate 2 refine (stops_refuseIf fun _ => protocolFault_value _).bind fun _ _ => ?_
    exact stops_refuseIf fun _ => protocolFault_value _
  | sell =>
    iterate 2 refine (stops_refuseIf fun _ => protocolFault_value _).bind fun _ _ => ?_
    cases fields.liquidityEvidence with
    | none => exact stops_error (protocolFault_value _)
    | some evidence =>
      refine (stops_refuseIf fun _ => protocolFault_value _).bind fun _ _ => ?_
      exact stops_refuseIf fun _ => protocolFault_value _

theorem stops_evidenceMake (fields : ProtocolLiquidityEvidenceFields) :
    Stops ProtocolFault (ProtocolLiquidityEvidence.make fields) := by
  intro e he
  rw [ProtocolLiquidityEvidence.make, construct_eq_error] at he
  refine Stops.bind ?_ ?_ e he
  · exact stops_refuseIf fun _ => protocolFault_value _
  intro _ _
  iterate 4 refine (stops_refuseIf fun _ => protocolFault_value _).bind fun _ _ => ?_
  exact stops_refuseIf fun _ => protocolFault_value _

theorem stops_mapQuoteError {α : Type} {x : Except Fault α} {t : Nat}
    (h : Stops (QuoteRefusal t) x) : Stops ProtocolFault (mapQuoteError x) := by
  intro e he
  match x, he with
  | .error e', he =>
    rcases h e' rfl with ⟨code, rfl⟩ | ⟨_, message, rfl⟩
    · cases he
      exact protocolFault_mappedQuoteError code
    · cases he
      exact protocolFault_value message

theorem stops_requireCurve (curves : Curves) (venueId : VenueId) :
    Stops ProtocolFault (requireCurve curves venueId) := by
  intro e he
  rw [requireCurve] at he
  split at he
  · cases he
  · cases he
    exact protocolFault_contract _

theorem buyContract_routed {intent : PositionIntent} {quote : ProtocolQuote}
    {q : PumpBuyQuote} (h : buyContract intent q = .ok quote) :
    quote.Routed := by
  have hf := ProtocolQuote.make_eq_ok h
  refine ⟨?_, ?_, ?_, ?_⟩
  · rw [hf]
    rfl
  · rw [hf]
    rfl
  · rw [hf]
    rfl
  · rw [hf]
    simp

theorem stops_intentCurve {runtime : PumpfunSnipingProtocolRuntime} {curves : Curves}
    {intent : PositionIntent} : Stops ProtocolFault (runtime.intentCurve curves intent) := by
  rw [PumpfunSnipingProtocolRuntime.intentCurve]
  refine (stops_requireCurve _ _).bind fun _ _ => ?_
  exact (stops_refuseIf fun _ => protocolFault_contract _).bind fun _ _ => stops_ok _

section View

variable [DomainDigest] {runtime : PumpfunSnipingProtocolRuntime} {curves : Curves}
  {intent : PositionIntent} {t n : Nat} {quote : ProtocolQuote}

theorem syntheticLiquidityAccountId_eq_ok {name : String} {networkId : NetworkId}
    {venueId : VenueId} {account : AccountId}
    (h : syntheticLiquidityAccountId name networkId venueId = .ok account) :
    account.kind = .external := by
  simp only [syntheticLiquidityAccountId, bind_eq_ok, refuseIf_eq_ok, exists_const,
    Except.ok.injEq] at h
  rw [← h.2]
  rfl

theorem syntheticFundingAccount_external {shortfall : Nat} {account : Option AccountId}
    (h : syntheticFundingAccount intent shortfall = .ok account) :
    ∀ a ∈ account, a.kind = .external := by
  intro a ha
  rw [syntheticFundingAccount] at h
  split at h
  · obtain ⟨b, hb, h⟩ := bind_eq_ok.mp h
    cases h
    cases ha
    exact syntheticLiquidityAccountId_eq_ok hb
  · cases h
    cases ha

theorem stops_syntheticFundingAccount (shortfall : Nat) :
    Stops ProtocolFault (syntheticFundingAccount intent shortfall) := by
  rw [syntheticFundingAccount]
  refine Stops.ite (fun _ => Stops.bind ?_ fun _ _ => stops_ok _) fun _ => stops_ok _
  rw [syntheticLiquidityAccountId]
  exact (stops_refuseIf fun _ => protocolFault_value _).bind fun _ _ => stops_ok _

/-- What `sellContract` writes into a quote. -/
theorem sellContract_eq_ok {q : PumpSellQuote} (h : sellContract intent q = .ok quote) :
    quote.side = .sell ∧ quote.inputAssetId = intent.assetId ∧
      quote.outputAssetId = intent.quoteAssetId ∧ quote.amountInAtomic = q.tokensInAtomic ∧
      quote.Routed ∧ ∃ evidence, quote.liquidityEvidence = some evidence ∧
        evidence.policyId = q.liquidityPolicy.value ∧
        evidence.syntheticShortfallAtomic = q.syntheticShortfallLamports := by
  obtain ⟨account, haccount, h⟩ := bind_eq_ok.mp h
  obtain ⟨evidence, hevidence, h⟩ := bind_eq_ok.mp h
  have hf := ProtocolQuote.make_eq_ok h
  have he := ProtocolLiquidityEvidence.make_eq_ok hevidence
  have hkind := syntheticFundingAccount_external haccount
  refine ⟨by rw [hf], by rw [hf], by rw [hf], by rw [hf], ⟨?_, ?_, ?_, ?_⟩, evidence, by rw [hf],
    by rw [he], by rw [he]⟩
  · rw [hf]
    rfl
  · rw [hf]
    rfl
  · rw [hf]
    rfl
  · intro evidence' hmem a ha
    rw [hf] at hmem
    cases hmem
    rw [he] at ha
    exact hkind a ha

theorem stops_sellContract (q : PumpSellQuote) :
    Stops ProtocolFault (sellContract intent q) := by
  refine (stops_syntheticFundingAccount _).bind fun _ _ => ?_
  exact (stops_evidenceMake _).bind fun _ _ => stops_quoteMake _

theorem quoteSellState_sells {state : PumpCurveStateV1}
    (h : runtime.quoteSellState intent state n t = .ok quote) :
    quote.Routed ∧ quote.Sells intent n := by
  obtain ⟨policy, hpolicy, h⟩ := bind_eq_ok.mp h
  obtain ⟨q, hq, h⟩ := bind_eq_ok.mp h
  have hsold := sellQuote_eq_ok (mapQuoteError_eq_ok.mp hq)
  obtain ⟨h1, h2, h3, h4, h5, evidence, h6, h7, h8⟩ := sellContract_eq_ok h
  rw [hsold.policy_eq] at h7
  obtain ⟨policyId, hid, hpolicy⟩ := bind_eq_ok.mp hpolicy
  have hvalue : policy.value = policyId ∧
      (intent.executionMode = .exogenousReplay → policy = .realReserveCappedV1) := by
    cases hm : intent.executionMode <;> rw [hm] at hid <;> cases hid
    · rw [if_pos (by decide)] at hpolicy
      cases hpolicy
      exact ⟨rfl, fun _ => rfl⟩
    · rw [if_neg (by decide)] at hpolicy
      cases hpolicy
      exact ⟨rfl, fun h => (nomatch h)⟩
  refine ⟨h5, h1, h2, h3, h4.trans hsold.tokens_eq, fun e he => ?_, fun e he hm => ?_⟩
  · rw [h6] at he
    cases he
    rw [h7, hvalue.1]
    exact hid
  · rw [h6] at he
    cases he
    rw [h8]
    exact hsold.capped (hvalue.2 hm)

theorem stops_quoteSellState (state : PumpCurveStateV1) :
    Stops ProtocolFault (runtime.quoteSellState intent state n t) := by
  rw [PumpfunSnipingProtocolRuntime.quoteSellState]
  refine Stops.bind ?_ fun _ _ => ?_
  · rw [sellLiquidityPolicy]
    refine Stops.bind ?_ fun _ _ => Stops.ite (fun _ => stops_ok _) fun _ => stops_ok _
    intro e he
    cases hm : intent.executionMode <;> rw [hm] at he <;> cases he
    · exact protocolFault_value _
    · exact protocolFault_value _
  · exact (stops_mapQuoteError stops_sellQuote).bind fun _ _ => stops_sellContract _

/-- **The runtime answers as the engine relies on, whatever its curves.** -/
theorem PumpfunSnipingProtocolRuntime.view_sound : (runtime.view curves).Sound where
  requirements_stops intent := by
    refine stops_intentCurve.bind fun record _ => ?_
    cases record.state.mode with
    | normal => exact stops_ok _
    | token2022 => exact stops_ok _
    | cashback => exact stops_ok _
    | mayhem => exact stops_error (protocolFault_contract _)
    | unknown => exact stops_error (protocolFault_contract _)
  buy h := by
    obtain ⟨record, _, h⟩ := bind_eq_ok.mp h
    obtain ⟨q, _, h⟩ := bind_eq_ok.mp h
    exact buyContract_routed h
  buy_stops intent t := by
    refine stops_intentCurve.bind fun record _ => ?_
    exact (stops_mapQuoteError stops_buyQuote).bind fun _ _ => stops_quoteMake _
  sell h := by
    obtain ⟨record, _, h⟩ := bind_eq_ok.mp h
    exact (quoteSellState_sells h).1
  sell_stops intent n t := stops_intentCurve.bind fun record _ => stops_quoteSellState _
  valuation h := by
    obtain ⟨record, _, h⟩ := bind_eq_ok.mp h
    split at h
    · obtain ⟨quote, hquote, h⟩ := bind_eq_ok.mp h
      cases h
      obtain ⟨_, _, hquote⟩ := bind_eq_ok.mp hquote
      exact (quoteSellState_sells hquote).2
    · split at h
      · split at h
        · cases h
        · obtain ⟨quote, hquote, h⟩ := bind_eq_ok.mp h
          cases h
          exact (quoteSellState_sells hquote).2
      · cases h
  valuation_stops intent n t := by
    refine stops_intentCurve.bind fun record _ => Stops.ite (fun _ => ?_) fun _ => ?_
    · refine Stops.bind ?_ fun _ _ => stops_ok _
      exact stops_intentCurve.bind fun _ _ => stops_quoteSellState _
    · split
      · split
        · exact stops_error (protocolFault_contract _)
        · exact (stops_quoteSellState _).bind fun _ _ => stops_ok _
      · exact stops_ok _

end View

/-! ## What a group does -/

/-- The target a launch event is. -/
def TokenLaunchEvent.target (event : TokenLaunchEvent) : LaunchTarget :=
  ⟨event.envelope.canonicalEventId, event.envelope.position, event.assetId, event.developerId,
    event.creationUserId, event.venueId, event.quoteAssetId⟩

/-- The target of an event, if it is a launch of this protocol. -/
def CanonicalEvent.pumpLaunch? : CanonicalEvent → Option LaunchTarget
  | .tokenLaunch event =>
    if event.envelope.protocol = PUMPFUN_PROTOCOL_NAME then some event.target else none
  | _ => none

section Groups

variable {runtime : PumpfunSnipingProtocolRuntime} {t : Nat}

theorem applyLaunch_eq_ok {candidate : Curves} {event : TokenLaunchEvent}
    {result : Curves × LaunchTarget} (h : runtime.applyLaunch t candidate event = .ok result) :
    result.2 = event.target ∧ event.quoteAssetId = runtime.quoteAssetId := by
  simp only [PumpfunSnipingProtocolRuntime.applyLaunch, bind_eq_ok, refuseIf_eq_ok, exists_const,
    ne_eq, not_not, Except.ok.injEq] at h
  obtain ⟨_, hquote, _, _, _, _, _, rfl⟩ := h
  exact ⟨rfl, hquote⟩

theorem applyEvent_eq_ok {candidate candidate' : Curves × List LaunchTarget}
    {event : CanonicalEvent} (h : runtime.applyEvent t candidate event = .ok candidate') :
    candidate'.2 = candidate.2 ++ event.pumpLaunch?.toList ∧
      ∀ target ∈ event.pumpLaunch?, target.quoteAssetId = runtime.quoteAssetId := by
  cases event with
  | block event =>
    cases h
    simp [CanonicalEvent.pumpLaunch?]
  | tokenLaunch event =>
    rw [PumpfunSnipingProtocolRuntime.applyEvent] at h
    split at h
    · rename_i hp
      cases h
      have hp' : event.envelope.protocol ≠ PUMPFUN_PROTOCOL_NAME := hp
      simp [CanonicalEvent.pumpLaunch?, hp']
    · rename_i hp
      have hp' : event.envelope.protocol = PUMPFUN_PROTOCOL_NAME := not_not.mp hp
      simp only [bind_eq_ok, refuseIf_eq_ok, exists_const] at h
      obtain ⟨_, _, result, hresult, h⟩ := h
      obtain ⟨h1, h2⟩ := applyLaunch_eq_ok hresult
      cases h
      simp [CanonicalEvent.pumpLaunch?, hp', h1, TokenLaunchEvent.target, h2]
  | venueTrade event =>
    rw [PumpfunSnipingProtocolRuntime.applyEvent] at h
    split at h
    · cases h
      simp [CanonicalEvent.pumpLaunch?]
    · simp only [bind_eq_ok, refuseIf_eq_ok, exists_const] at h
      obtain ⟨_, _, curves, _, h⟩ := h
      cases h
      simp [CanonicalEvent.pumpLaunch?]
  | venueLifecycle event =>
    rw [PumpfunSnipingProtocolRuntime.applyEvent] at h
    split at h
    · cases h
      simp [CanonicalEvent.pumpLaunch?]
    · simp only [bind_eq_ok, refuseIf_eq_ok, exists_const] at h
      obtain ⟨_, _, curves, _, h⟩ := h
      cases h
      simp [CanonicalEvent.pumpLaunch?]

theorem foldlM_applyEvent_eq_ok (events : List CanonicalEvent)
    {candidate candidate' : Curves × List LaunchTarget}
    (h : events.foldlM (runtime.applyEvent t) candidate = .ok candidate') :
    candidate'.2 = candidate.2 ++ events.filterMap CanonicalEvent.pumpLaunch? ∧
      ∀ target ∈ events.filterMap CanonicalEvent.pumpLaunch?,
        target.quoteAssetId = runtime.quoteAssetId := by
  induction events generalizing candidate with
  | nil =>
    cases h
    simp
  | cons event rest ih =>
    rw [List.foldlM_cons] at h
    obtain ⟨c, hc, h⟩ := bind_eq_ok.mp h
    obtain ⟨h1, h2⟩ := applyEvent_eq_ok hc
    obtain ⟨h3, h4⟩ := ih h
    rw [List.filterMap_cons]
    cases hl : event.pumpLaunch? with
    | none =>
      rw [hl, Option.toList_none, List.append_nil] at h1
      rw [h1] at h3
      exact ⟨h3, h4⟩
    | some target =>
      rw [hl, Option.toList_some] at h1
      refine ⟨by rw [h3, h1, List.append_assoc]; rfl, fun target' hmem => ?_⟩
      rcases List.mem_cons.mp hmem with rfl | hmem
      · exact h2 target' hl
      · exact h4 target' hmem

/-- **The launches of a group are the targets of its launch events, in their order.** -/
theorem applyHistoricalGroup_eq_ok {curves curves' : Curves} {events : List CanonicalEvent}
    {launches : List LaunchTarget}
    (h : runtime.applyHistoricalGroup curves events t = .ok (curves', launches)) :
    launches = events.filterMap CanonicalEvent.pumpLaunch? ∧
      ∀ target ∈ launches, target.quoteAssetId = runtime.quoteAssetId := by
  cases events with
  | nil => cases h
  | cons first rest =>
    obtain ⟨_, _, h⟩ := bind_eq_ok.mp h
    obtain ⟨h1, h2⟩ := foldlM_applyEvent_eq_ok _ h
    rw [List.nil_append] at h1
    exact ⟨h1, fun target hmem => h2 target (h1 ▸ hmem)⟩

end Groups

end OnchainBacktest
