import OnchainBacktest.Engine.RunBooks

/-!
# The results of a run

A run that completes has one record for each of its round trips, in their order, and its recorder
still holds the rows the run wrote (`Finished`).
-/

set_option autoImplicit false

namespace OnchainBacktest

open Checked

section Finalize

variable {market : Market} {profile : String} {mode : ExecutionMode} {rid : ContentDigest}
  {s : RoundTripState} {cash : Int} {time : Nat} {r : RoundTripRecord}

/-- The computations behind a record. -/
structure FinalizedFrom (market : Market) (profile : String) (mode : ExecutionMode)
    (rid : ContentDigest) (s : RoundTripState) (cash : Int) (time : Nat) (r : RoundTripRecord) :
    Prop where
  built : ∃ buy sell valuation reference landing settled,
    buyLeg s = .ok buy ∧ sellLeg s = .ok sell ∧
      valueRoundtrip market s cash time = .ok valuation ∧
      optionalQuoteLiquidityRecord s.sellReference = .ok reference ∧
      optionalQuoteLiquidityRecord s.sellLanding = .ok landing ∧
      settledFundedAtomic s = .ok settled ∧
      r = roundTripRecord profile mode rid s buy sell valuation reference landing settled
  valid : r.postInit = .ok ()

theorem finalizeRoundtrip_eq_ok
    (h : finalizeRoundtrip market profile mode rid s cash time = .ok r) :
    FinalizedFrom market profile mode rid s cash time r := by
  obtain ⟨buy, hbuy, h⟩ := bind_eq_ok.mp h
  obtain ⟨sell, hsell, h⟩ := bind_eq_ok.mp h
  obtain ⟨valuation, hvaluation, h⟩ := bind_eq_ok.mp h
  obtain ⟨reference, hreference, h⟩ := bind_eq_ok.mp h
  obtain ⟨landing, hlanding, h⟩ := bind_eq_ok.mp h
  obtain ⟨settled, hsettled, h⟩ := bind_eq_ok.mp h
  obtain ⟨hvalid, h⟩ := check_bind_eq_ok.mp h
  cases h
  exact ⟨⟨buy, sell, valuation, reference, landing, settled, hbuy, hsell, hvaluation, hreference,
    hlanding, hsettled, rfl⟩, hvalid⟩

/-- What a record copies from its round trip. -/
theorem FinalizedFrom.copies (h : FinalizedFrom market profile mode rid s cash time r) :
    r.roundtripId = rid ∧ r.status = s.status ∧
      r.acquiredTokenAmountAtomic = s.acquiredTokenAmountAtomic ∧
      r.cashbackReceivableAtomic = s.cashbackReceivableAtomic ∧
      r.accountComponents = s.accountComponents ∧ r.quoteAssetId = s.target.quoteAssetId := by
  obtain ⟨_, _, _, _, _, _, _, _, _, _, _, _, rfl⟩ := h.built
  exact ⟨rfl, rfl, rfl, rfl, rfl, rfl⟩

end Finalize

section Finish

variable [DomainDigest] (setup : SnipingSetup)

/-- What a completed run gives back. -/
structure Finished (state : RunState) (output : SnipingRunOutput) : Prop where
  records : List.Forall₂ (fun e r => finalizeState setup state e = .ok r) state.states.entries
    output.records
  ledger : output.recorder.ledger = state.desk.recorder.ledger
  fills : output.recorder.fills = state.desk.recorder.fills
  audit : output.recorder.audit = state.desk.recorder.audit
  cashflows : output.recorder.cashflows = state.desk.recorder.cashflows
  roundtrips : output.recorder.roundtrips = state.desk.recorder.roundtrips ++ output.records
  summary : ∃ policy, output.summary = summarize state.counts state.desk.portfolio output.recorder
    setup.config.executionMode output.records policy

variable {setup}

omit [DomainDigest] in
theorem foldl_appendRoundtrip (records : List RoundTripRecord) (recorder : Recorder) :
    records.foldl Recorder.appendRoundtrip recorder
      = { recorder with roundtrips := recorder.roundtrips ++ records } := by
  induction records generalizing recorder with
  | nil => rw [List.foldl_nil, List.append_nil]
  | cons r rest ih =>
    rw [List.foldl_cons, ih, Recorder.appendRoundtrip, List.append_assoc, List.singleton_append]

theorem finish_eq_ok {state : RunState} {output : SnipingRunOutput}
    (h : finish setup state = .ok output) : Finished setup state output := by
  obtain ⟨records, hrecords, h⟩ := bind_eq_ok.mp h
  obtain ⟨policy, _, h⟩ := bind_eq_ok.mp h
  cases h
  have hfold := foldl_appendRoundtrip records state.desk.recorder
  refine ⟨mapM_eq_ok hrecords, ?_, ?_, ?_, ?_, ?_, ⟨policy, rfl⟩⟩
  all_goals rw [hfold]

/-- A completed run: its state, and what came of it. -/
theorem run_eq_ok {source : HistoricalEventSource} {output : SnipingRunOutput}
    (h : run setup source = .ok output) :
    ∃ state, simulate setup source = .ok state ∧ Finished setup state output := by
  obtain ⟨state, hstate, h⟩ := bind_eq_ok.mp h
  exact ⟨state, hstate, finish_eq_ok h⟩

omit [DomainDigest] in
/-- One item and its result. -/
theorem forall₂_mem_right {α β : Type} {R : α → β → Prop} {l : List α} {l' : List β}
    (h : List.Forall₂ R l l') {b : β} (hb : b ∈ l') : ∃ a ∈ l, R a b := by
  induction h with
  | nil => cases hb
  | cons hab _ ih =>
    rcases List.mem_cons.mp hb with rfl | hb
    · exact ⟨_, List.mem_cons_self, hab⟩
    · obtain ⟨a, ha, hr⟩ := ih hb
      exact ⟨a, List.mem_cons_of_mem _ ha, hr⟩

variable {state : RunState} {output : SnipingRunOutput}

/-- The record of a round trip. -/
theorem Finished.record (h : Finished setup state output) {r : RoundTripRecord}
    (hr : r ∈ output.records) : ∃ s, state.states.get? r.roundtripId = some s ∧
      FinalizedFrom (setup.market state.curves) setup.config.walletAccountProfileId
        setup.config.executionMode r.roundtripId s
        (state.desk.recorder.cashflows.amount r.roundtripId s.target.quoteAssetId)
        setup.finalTimeUnixS r := by
  obtain ⟨⟨rid, s⟩, he, hfinal⟩ := forall₂_mem_right h.records hr
  have hf := finalizeRoundtrip_eq_ok hfinal
  obtain rfl : r.roundtripId = rid := hf.copies.1
  exact ⟨s, Dict.get?_eq_some_iff.mpr he, hf⟩

/-- **There is one record for each round trip, in their order.** -/
theorem Finished.keys (h : Finished setup state output) :
    output.records.map RoundTripRecord.roundtripId = state.states.keys := by
  have hall := h.records
  rw [Dict.keys]
  generalize state.states.entries = entries at hall
  generalize output.records = records at hall
  induction hall with
  | nil => rfl
  | cons hr _ ih =>
    rw [List.map_cons, List.map_cons, ih, (finalizeRoundtrip_eq_ok hr).copies.1]

/-- The records sum what the states sum. -/
theorem Finished.sum_map {M : Type} [AddCommMonoid M] (h : Finished setup state output)
    (f : RoundTripRecord → M) (g : RoundTripState → M)
    (hfg : ∀ e ∈ state.states.entries, ∀ r, finalizeState setup state e = .ok r → f r = g e.2) :
    (output.records.map f).sum = state.states.total fun _ s => g s := by
  have hall := h.records
  rw [Dict.total]
  generalize state.states.entries = entries at hall hfg
  generalize output.records = records at hall
  induction hall with
  | nil => rfl
  | cons hr _ ih =>
    rw [List.map_cons, List.map_cons, List.sum_cons, List.sum_cons,
      ih fun e he => hfg e (List.mem_cons_of_mem _ he), hfg _ List.mem_cons_self _ hr]

end Finish

/-! ## A small run

One launch on a clock of three blocks: its buy is filled, its sell closes it. -/

section Sample

def sampleNetwork : NetworkId := ⟨"solana"⟩

def sampleClock : CompactTransactionClock where
  networkId := sampleNetwork
  positionSchemaId := BLOCK32_TRANSACTION32_POSITION_SCHEMA_ID
  blockOrdinals := [100, 101, 102]
  transactionCounts := [1000, 1000, 1000]
  cumulativeTransactionPrefix := [0, 1000, 2000]
  blockTimeNs := [1700000000000000000, 1700000001000000000, 1700000004000000000]
  ordinals_ne := by decide
  counts_length := rfl
  times_length := rfl
  ordinals_sorted := by decide
  counts_le := by decide
  prefix_exact := by decide
  ends_le := by decide
  times_resolution := by decide
  times_sorted := by decide

def sampleStrategy : PumpfunSnipingStrategy where
  quoteAssetId := SOLANA_NATIVE_ASSET_ID
  grossBuyBudgetAtomic := 1000000
  buySlippageBps := 500
  sellSlippageBps := 500
  sellDelayTransactions := 10
  executionMode := .exogenousReplay
  bundleId := { hex := 1 }
  budget_pos := by decide
  buy_slippage_le := by decide
  sell_slippage_le := by decide
  delay_pos := by decide
  mode_supported := by decide

def sampleProtocol : PumpfunSnipingProtocolRuntime where
  quoteAssetId := SOLANA_NATIVE_ASSET_ID
  feeProfile :=
    { programVersion := PUMP_STATIC_PROGRAM_CONTRACT_V1
      buyFormulaVersion := PUMP_BUY_EXACT_GROSS_SOL_FORMULA_V1
      sellFormulaVersion := PUMP_SELL_EXACT_TOKEN_IN_FORMULA_V1
      effectiveFromUnixS := 0
      effectiveUntilUnixS := 2000000000
      protocolFeeBps := 95
      creatorFeeBps := 30
      until_le := by decide
      interval := by decide
      fees_lt := by decide }
  protocolVersion := "1"
  version_trimmed := by decide

def sampleFee : SolanaFeeProfile where
  formulaVersion := SOLANA_LEGACY_V0_FEE_FORMULA_V1
  transactionFormat := .legacy
  effectiveFromUnixS := 0
  effectiveUntilUnixS := 2000000000
  chargedSignatureCount := 1
  lamportsPerSignature := 5000
  computeUnitLimit := 1000
  microLamportsPerComputeUnit := 1000
  until_le := by decide
  interval := by decide
  signatures_pos := Nat.one_pos
  signatures_le := by decide
  lamports_le := by decide
  units_le := by decide
  micro_le := by decide

def sampleCosts : SolanaSnipingCostModel where
  buyFeeProfile := sampleFee
  sellFeeProfile := sampleFee
  accountCostProfile :=
    { effectiveFromUnixS := 0
      effectiveUntilUnixS := 2000000000
      costs := [⟨PUMPFUN_UVA_SCHEMA_ID, 1844400, true, by decide⟩,
        ⟨PUMPFUN_LEGACY_ATA_SCHEMA_ID, 2039280, true, by decide⟩]
      until_le := by decide
      interval := by decide
      sorted := by decide }

def sampleConfig : SnipingRunConfig where
  quoteAssetId := SOLANA_NATIVE_ASSET_ID
  decisionRange :=
    { networkId := sampleNetwork
      positionSchemaId := BLOCK32_TRANSACTION32_POSITION_SCHEMA_ID
      fromBlockOrdinal := 100
      toBlockOrdinal := 103
      schema_supported := rfl
      nonempty := by decide
      to_le := by decide }
  initialAvailable := [(SOLANA_NATIVE_ASSET_ID, 100000000)]
  initialUvaState := .fresh
  walletAccountProfileId := "wallet"
  uvaSchemaId := PUMPFUN_UVA_SCHEMA_ID
  maximumDynamicItems := 12
  executionMode := .exogenousReplay
  profile_stable := by decide
  uva_stable := walletAccountRequirement.schema_stable
  mode_supported := sampleStrategy.mode_supported
  maximum_pos := by decide
  quote_mem := by decide
  assets_nodup := by decide

def sampleSetup : SnipingSetup :=
  ⟨sampleClock, sampleStrategy, sampleProtocol, sampleCosts, sampleConfig⟩

def sampleCurve : PumpCurveStateV1 where
  virtualTokenReservesAtomic := 1073000000000000
  virtualSolReservesLamports := 30000000000
  realTokenReservesAtomic := 793100000000000
  realSolReservesLamports := 10000000000
  tokenTotalSupplyAtomic := 1000000000000000
  lifecycle := .active
  mode := .normal
  virtual_token_pos := by decide
  virtual_token_le := by decide
  virtual_sol_pos := by decide
  virtual_sol_le := by decide
  real_token_le := by decide
  real_sol_le := by decide
  supply_pos := by decide
  supply_le := by decide
  real_token_le_supply := by decide

def samplePosition : ChainPosition where
  networkId := sampleNetwork
  positionSchemaId := BLOCK32_TRANSACTION32_POSITION_SCHEMA_ID
  blockOrdinal := 100
  transactionIndex := 0
  eventIndex := some 0
  schema_supported := rfl
  block_le := by decide
  neg_one_le := ChainPosition.first_ge
  transaction_lt := ChainPosition.first_lt
  event_le := by decide

def sampleEvent : TokenLaunchEvent where
  envelope :=
    { position := samplePosition
      transactionGroupId := { hex := 7 }
      canonicalEventId := { hex := 8 }
      stableCausalId := { hex := 9 }
      protocol := PUMPFUN_PROTOCOL_NAME
      protocolVersion := "1"
      orderingFidelity := .instructionExact
      protocol_trimmed := by decide
      version_trimmed := by decide
      exact_indexed := by decide }
  assetId := ⟨"TOKEN"⟩
  developerId := .address "dev"
  creationUserId := .address "dev"
  venueId := ⟨"curve"⟩
  quoteAssetId := SOLANA_NATIVE_ASSET_ID
  protocolPayloadSchema := PUMPFUN_LAUNCH_PAYLOAD_SCHEMA_ID
  protocolPayload := encodeState sampleCurve
  assets_ne := by decide

def sampleLaunch : CanonicalEvent := .tokenLaunch sampleEvent

def sampleSource : HistoricalEventSource := ⟨[sampleLaunch], some 1⟩

/-- The run before its first boundary. -/
def sampleOpening : RunState where
  curves := Dict.empty
  cooldowns := Dict.empty
  desk := ⟨PortfolioState.initial sampleConfig.initialAvailable,
    ⟨.fresh, PUMPFUN_UVA_SCHEMA_ID, none, []⟩, Recorder.empty, []⟩
  states := Dict.empty
  counts := {}

/-- The run once its one group is applied. -/
def sampleOpened : RunState :=
  { sampleOpening with
    curves := Dict.empty.set sampleEvent.venueId
      ⟨sampleEvent.assetId, sampleEvent.quoteAssetId, sampleCurve, some sampleCurve,
        some 1700000000⟩
    desk := sampleOpening.desk.audit (.historicalGroupApplied sampleLaunch.boundaryOrdinal
      [sampleEvent.envelope.canonicalEventId] sampleEvent.envelope.transactionGroupId)
    counts := { eventCount := 1, deliveredEventCount := 1, groupCount := 1 } }

/-- The digest of the sample; it has one round trip, so any digest will do. -/
@[reducible] def sampleDigest : DomainDigest := ⟨fun _ fields => { hex := Fin.ofNat _ fields.length }⟩

attribute [local instance] sampleDigest

/-- A launch that is eligible opens its curve. -/
theorem applyEvent_launch {runtime : PumpfunSnipingProtocolRuntime} {curves : Curves}
    {launches : List LaunchTarget} {launch : TokenLaunchEvent} {state : PumpCurveStateV1}
    (time : Nat) (hprotocol : launch.envelope.protocol = PUMPFUN_PROTOCOL_NAME)
    (hversion : launch.envelope.protocolVersion = runtime.protocolVersion)
    (hfidelity : launch.envelope.orderingFidelity = .instructionExact)
    (hschema : launch.protocolPayloadSchema = PUMPFUN_LAUNCH_PAYLOAD_SCHEMA_ID)
    (hquote : launch.quoteAssetId = runtime.quoteAssetId)
    (hnew : curves.get? launch.venueId = none)
    (hdecode : decodeState launch.protocolPayload = .ok state)
    (heligible : requireEligibleLaunchState state = .ok ()) :
    runtime.applyEvent time (curves, launches) (.tokenLaunch launch)
      = .ok (curves.set launch.venueId
        ⟨launch.assetId, launch.quoteAssetId, state, some state, some time⟩,
        launches ++ [launch.target]) := by
  have happly : runtime.applyLaunch time curves launch = .ok (curves.set launch.venueId
      ⟨launch.assetId, launch.quoteAssetId, state, some state, some time⟩, launch.target) := by
    rw [PumpfunSnipingProtocolRuntime.applyLaunch, refuseIf_of_not (not_not.mpr hschema), ok_bind,
      refuseIf_of_not (not_not.mpr hquote), ok_bind, refuseIf_of_not (not_not.mpr hnew), ok_bind,
      hdecode, ok_bind, heligible, ok_bind]
    rfl
  have henvelope : (CanonicalEvent.tokenLaunch launch).envelope = launch.envelope := rfl
  rw [PumpfunSnipingProtocolRuntime.applyEvent, henvelope, if_neg (not_not.mpr hprotocol),
    refuseIf_of_not (not_not.mpr hversion), ok_bind, refuseIf_of_not (not_not.mpr hfidelity),
    ok_bind]
  simp only [happly, ok_bind]

theorem openingState_sample : openingState sampleSetup = .ok sampleOpening := rfl

theorem applyGroup_sample : applyGroup sampleSetup sampleOpening sampleLaunch [sampleLaunch]
    = .ok (sampleOpened, [sampleEvent.target]) := by
  have hblock : sampleSetup.clock.blockTimeForBlock (boundaryPosition sampleLaunch).blockOrdinal
      = .ok 1700000000000000000 := by decide
  have htime : 1700000000000000000 / 1000000000 = 1700000000 := by norm_num
  have hpayload : sampleEvent.protocolPayload = encodeState sampleCurve := by
    rw [sampleEvent]
  have hdecode : decodeState sampleEvent.protocolPayload = .ok sampleCurve := by
    rw [hpayload, decodeState_encodeState]
  have hevent := @applyEvent_launch sampleSetup.protocol sampleOpening.curves [] sampleEvent
    sampleCurve 1700000000 rfl rfl rfl rfl rfl rfl hdecode rfl
  have hgroup : sampleSetup.protocol.applyHistoricalGroup sampleOpening.curves [sampleLaunch]
      1700000000 = .ok (sampleOpened.curves, [sampleEvent.target]) := by
    rw [PumpfunSnipingProtocolRuntime.applyHistoricalGroup, refuseIf_of_not (by simp), ok_bind,
      List.foldlM_cons, sampleLaunch, hevent]
    exact Eq.refl _
  rewrite [applyGroup, hblock, ok_bind, htime, hgroup]
  exact Eq.refl _

/-- The run opens its boundary. -/
theorem openBoundary_sample : ∃ opening, openingState sampleSetup = .ok opening ∧
    nextBoundary [[sampleLaunch]] opening.desk.scheduled = some sampleLaunch.boundaryOrdinal ∧
    openBoundary sampleSetup [[sampleLaunch]] opening sampleLaunch.boundaryOrdinal
      = .ok (popDecisions [] (boundaryPosition sampleLaunch) sampleLaunch.boundaryOrdinal
        sampleOpened [sampleEvent.target]) := by
  refine ⟨sampleOpening, openingState_sample, rfl, ?_⟩
  rw [openBoundary, if_pos rfl, applyGroup_sample]
  rfl

theorem eventGroups_sample :
    (eventGroups sampleSetup.clock sampleSource.events).groups = [[sampleLaunch]] := by
  have hadmit : admitEvent sampleSetup.clock none sampleLaunch = .ok () := by decide
  rw [show sampleSource.events = [sampleLaunch] from rfl, eventGroups, hadmit]
  rfl

/-- The sample buys, sells and completes. -/
theorem sampleRun : (run sampleSetup sampleSource).toBool = true := by
  obtain ⟨opening, hopening, hnext, hopen⟩ := openBoundary_sample
  have hchain : validateChainContract sampleSetup = .ok () := by decide
  have hpreflight : preflightSourceClockCoverage sampleSetup sampleSource = .ok (1, 1) := by
    decide
  have hfuel : fuelOf [[sampleLaunch]] = 3 + 1 := rfl
  rw [run, simulate, hchain, ok_bind, hpreflight, ok_bind]
  simp only [hopening, ok_bind, eventGroups_sample, hfuel, runLoop, hnext, processBoundary, hopen]
  decide

theorem run_sample : ∃ output, run sampleSetup sampleSource = .ok output := by
  have h := sampleRun
  cases hrun : run sampleSetup sampleSource with
  | ok output => exact ⟨output, rfl⟩
  | error e =>
    rw [hrun] at h
    cases h

theorem reachable_sample : ∃ state, Reachable sampleSetup sampleSource (.between [] state) := by
  obtain ⟨output, hrun⟩ := run_sample
  obtain ⟨state, hstate, _⟩ := run_eq_ok hrun
  exact ⟨state, (reachable_of_simulate hstate).1⟩

end Sample

end OnchainBacktest
