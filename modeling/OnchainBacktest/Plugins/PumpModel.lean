import OnchainBacktest.Engine.SnipingContracts

/-!
# Pump bonding-curve quotes

Checked-integer quotes of one bonding curve under a resolved fee profile: `buyQuote` spends a gross
budget, `sellQuote` sells an exact token amount.

The two results every layer above uses are about rounding.  A buy spends the whole budget or one
lamport less (`buyQuote_spent`), and exactly when it falls one short is a condition on the budget
and the fee profile alone.  A sell splits the curve's gross output exactly into output and fees.
-/

set_option autoImplicit false

namespace OnchainBacktest

open Checked

def BASIS_POINTS_DENOMINATOR : Nat := 10000

def MAX_U64 : Nat := 2 ^ 64 - 1

def MAX_U128 : Nat := 2 ^ 128 - 1

def PUMP_STATIC_PROGRAM_CONTRACT_V1 : String := "pump-program-static-fee-v1"

def PUMP_BUY_EXACT_GROSS_SOL_FORMULA_V1 : String := "pump-buy-exact-gross-sol-v1"

def PUMP_BUY_LEGACY_EXACT_NET_SOL_FORMULA_V1 : String := "pump-buy-legacy-exact-net-sol-v1"

def PUMP_SELL_EXACT_TOKEN_IN_FORMULA_V1 : String := "pump-sell-exact-token-in-v1"

def SUPPORTED_BUY_FORMULAS : List String :=
  [PUMP_BUY_EXACT_GROSS_SOL_FORMULA_V1, PUMP_BUY_LEGACY_EXACT_NET_SOL_FORMULA_V1]

def SUPPORTED_SELL_FORMULAS : List String := [PUMP_SELL_EXACT_TOKEN_IN_FORMULA_V1]

inductive PumpMode
  | normal
  | token2022
  | cashback
  | mayhem
  | unknown
  deriving DecidableEq, Repr

inductive PumpCurveLifecycle
  | active
  | completed
  | migrated
  | unknown
  deriving DecidableEq, Repr

inductive PumpProtocolFeeRoute
  | normalRecipient
  | mayhemRecipient
  deriving DecidableEq, Repr

/-- The lowercase spelling of a route. -/
def PumpProtocolFeeRoute.lower : PumpProtocolFeeRoute → String
  | normalRecipient => "normal_recipient"
  | mayhemRecipient => "mayhem_recipient"

inductive PumpCreatorFeeRoute
  | creatorVault
  | cashbackReceivable
  deriving DecidableEq, Repr

/-- The lowercase spelling of a route. -/
def PumpCreatorFeeRoute.lower : PumpCreatorFeeRoute → String
  | creatorVault => "creator_vault"
  | cashbackReceivable => "cashback_receivable"

inductive PumpSellLiquidityPolicy
  | realReserveCappedV1
  | virtualReserveOutputWithExplicitSyntheticShortfallV1
  deriving DecidableEq, Repr

def PumpSellLiquidityPolicy.value : PumpSellLiquidityPolicy → String
  | realReserveCappedV1 => REAL_RESERVE_CAPPED_LIQUIDITY_POLICY_ID
  | virtualReserveOutputWithExplicitSyntheticShortfallV1 =>
    VIRTUAL_RESERVE_EXPLICIT_SHORTFALL_LIQUIDITY_POLICY_ID

/-- Minimum immutable state the static-fee curve needs. -/
structure PumpCurveStateV1 where
  virtualTokenReservesAtomic : Nat
  virtualSolReservesLamports : Nat
  realTokenReservesAtomic : Nat
  realSolReservesLamports : Nat
  tokenTotalSupplyAtomic : Nat
  lifecycle : PumpCurveLifecycle
  mode : PumpMode
  virtual_token_pos : 0 < virtualTokenReservesAtomic
  virtual_token_le : virtualTokenReservesAtomic ≤ MAX_U64
  virtual_sol_pos : 0 < virtualSolReservesLamports
  virtual_sol_le : virtualSolReservesLamports ≤ MAX_U64
  real_token_le : realTokenReservesAtomic ≤ MAX_U64
  real_sol_le : realSolReservesLamports ≤ MAX_U64
  supply_pos : 0 < tokenTotalSupplyAtomic
  supply_le : tokenTotalSupplyAtomic ≤ MAX_U64
  real_token_le_supply : realTokenReservesAtomic ≤ tokenTotalSupplyAtomic

/-- Resolved static fee and formula contract for one effective interval. -/
structure PumpFeeProfile where
  programVersion : String
  buyFormulaVersion : String
  sellFormulaVersion : String
  effectiveFromUnixS : Nat
  effectiveUntilUnixS : Nat
  protocolFeeBps : Nat
  creatorFeeBps : Nat
  until_le : effectiveUntilUnixS ≤ MAX_U64
  interval : effectiveFromUnixS < effectiveUntilUnixS
  fees_lt : protocolFeeBps + creatorFeeBps < BASIS_POINTS_DENOMINATOR

structure PumpFeeRouting where
  protocolFeeRoute : PumpProtocolFeeRoute
  creatorFeeRoute : PumpCreatorFeeRoute
  deriving DecidableEq

structure PumpFeeBreakdown where
  protocolFeeLamports : Nat
  creatorFeeLamports : Nat
  routing : PumpFeeRouting
  cashbackReceivableLamports : Option Nat
  deriving DecidableEq

def PumpFeeBreakdown.totalFeeLamports (fees : PumpFeeBreakdown) : Nat :=
  fees.protocolFeeLamports + fees.creatorFeeLamports

/-- `value` is outside `[1, 2^64)`. -/
def outsidePositiveU64 (value : Nat) : Prop := value = 0 ∨ MAX_U64 < value

instance (value : Nat) : Decidable (outsidePositiveU64 value) :=
  inferInstanceAs (Decidable (_ ∨ _))

structure PumpBuyQuote where
  formulaVersion : String
  spendableGrossSolLamports : Nat
  grossSolSpentLamports : Nat
  feeBasisSolLamports : Nat
  netCurveSolLamports : Nat
  tokensOutAtomic : Nat
  fees : PumpFeeBreakdown
  deriving DecidableEq

/-- The constructor of a buy quote: the quote, once its checks pass. -/
def PumpBuyQuote.checked (q : PumpBuyQuote) : Except Fault PumpBuyQuote := do
  refuseIf (outsidePositiveU64 q.spendableGrossSolLamports)
    (.value "spendable_gross_sol_lamports must be a positive u64")
  refuseIf (outsidePositiveU64 q.grossSolSpentLamports)
    (.value "gross_sol_spent_lamports must be a positive u64")
  refuseIf (outsidePositiveU64 q.feeBasisSolLamports)
    (.value "fee_basis_sol_lamports must be a positive u64")
  refuseIf (outsidePositiveU64 q.netCurveSolLamports)
    (.value "net_curve_sol_lamports must be a positive u64")
  refuseIf (outsidePositiveU64 q.tokensOutAtomic)
    (.value "tokens_out_atomic must be a positive u64")
  refuseIf (q.grossSolSpentLamports ≠ q.netCurveSolLamports + q.fees.totalFeeLamports)
    (.value "buy gross spend must equal curve input plus fee components")
  refuseIf (q.spendableGrossSolLamports < q.grossSolSpentLamports)
    (.value "buy gross spend cannot exceed the spendable budget")
  refuseIf (q.feeBasisSolLamports < q.netCurveSolLamports)
    (.value "buy fee basis cannot be below the adjusted curve input")
  .ok q

structure PumpSellQuote where
  formulaVersion : String
  tokensInAtomic : Nat
  grossCurveSolLamports : Nat
  solOutLamports : Nat
  liquidityPolicy : PumpSellLiquidityPolicy
  observedRealSolReservesLamports : Nat
  syntheticShortfallLamports : Nat
  fees : PumpFeeBreakdown
  deriving DecidableEq

/-- The constructor of a sell quote: the quote, once its checks pass. -/
def PumpSellQuote.checked (q : PumpSellQuote) : Except Fault PumpSellQuote := do
  refuseIf (outsidePositiveU64 q.tokensInAtomic)
    (.value "tokens_in_atomic must be a positive u64")
  refuseIf (outsidePositiveU64 q.grossCurveSolLamports)
    (.value "gross_curve_sol_lamports must be a positive u64")
  refuseIf (outsidePositiveU64 q.solOutLamports)
    (.value "sol_out_lamports must be a positive u64")
  refuseIf (MAX_U64 < q.observedRealSolReservesLamports)
    (.value "observed_real_sol_reserves_lamports must be a u64")
  refuseIf (MAX_U64 < q.syntheticShortfallLamports)
    (.value "synthetic_shortfall_lamports must be a u64")
  refuseIf (q.grossCurveSolLamports ≠ q.solOutLamports + q.fees.totalFeeLamports)
    (.value "sell gross output must equal net output plus fee components")
  refuseIf (q.syntheticShortfallLamports ≠
      q.grossCurveSolLamports - q.observedRealSolReservesLamports)
    (.value "sell synthetic shortfall is inconsistent with real reserves")
  refuseIf (q.liquidityPolicy = .realReserveCappedV1 ∧ q.syntheticShortfallLamports ≠ 0)
    (.value "real-reserve-capped quote cannot contain a synthetic shortfall")
  .ok q

/-! ## Checked arithmetic -/

def checkedMulU128 (left right : Nat) : Except Fault Nat :=
  if MAX_U128 < left * right then .error (.pumpQuote .arithmeticOverflow) else .ok (left * right)

def checkedAddU64 (left right : Nat) : Except Fault Nat :=
  if MAX_U64 < left + right then .error (.pumpQuote .arithmeticOverflow) else .ok (left + right)

def requireQuoteInput (value : Nat) : Except Fault Unit :=
  refuseIf (outsidePositiveU64 value) (.pumpQuote .inputOutOfBounds)

def feeCeil (amount feeBps : Nat) : Except Fault Nat :=
  if feeBps = 0 then .ok 0
  else do
    let numerator ← checkedMulU128 amount feeBps
    .ok ((numerator + BASIS_POINTS_DENOMINATOR - 1) / BASIS_POINTS_DENOMINATOR)

def feeRouting : PumpMode → Except Fault PumpFeeRouting
  | .normal => .ok ⟨.normalRecipient, .creatorVault⟩
  | .token2022 => .ok ⟨.normalRecipient, .creatorVault⟩
  | .cashback => .ok ⟨.normalRecipient, .cashbackReceivable⟩
  | .mayhem => .ok ⟨.mayhemRecipient, .creatorVault⟩
  | .unknown => .error (.pumpQuote .unknownMode)

def feeBreakdown (mode : PumpMode) (protocolFeeLamports creatorFeeLamports : Nat) :
    Except Fault PumpFeeBreakdown := do
  let routing ← feeRouting mode
  let cashback := if routing.creatorFeeRoute = .cashbackReceivable then some creatorFeeLamports
    else none
  refuseIf (MAX_U64 < protocolFeeLamports) (.value "protocol_fee_lamports must be a u64")
  refuseIf (MAX_U64 < creatorFeeLamports) (.value "creator_fee_lamports must be a u64")
  .ok ⟨protocolFeeLamports, creatorFeeLamports, routing, cashback⟩

/-- The fee components of an observed trade, from its curve-SOL delta. -/
def historicalTradeFeeBreakdown (mode : PumpMode) (curveSolLamports : Nat)
    (feeProfile : PumpFeeProfile) (effectiveAtUnixS : Nat) : Except Fault PumpFeeBreakdown := do
  refuseIf (MAX_U64 < curveSolLamports) (.value "curve_sol_lamports must be a u64")
  refuseIf (MAX_U64 < effectiveAtUnixS) (.value "effective_at_unix_s must be a u64")
  refuseIf (feeProfile.programVersion ≠ PUMP_STATIC_PROGRAM_CONTRACT_V1)
    (.pumpQuote .unsupportedProgramVersion)
  refuseIf (¬ (feeProfile.effectiveFromUnixS ≤ effectiveAtUnixS ∧
      effectiveAtUnixS < feeProfile.effectiveUntilUnixS)) (.pumpQuote .profileNotEffective)
  refuseIf (mode = .unknown) (.pumpQuote .unknownMode)
  let protocolFee ← feeCeil curveSolLamports feeProfile.protocolFeeBps
  let creatorFee ← feeCeil curveSolLamports feeProfile.creatorFeeBps
  feeBreakdown mode protocolFee creatorFee

def validateQuoteContract (state : PumpCurveStateV1) (feeProfile : PumpFeeProfile)
    (effectiveAtUnixS : Nat) (supportedFormulas : List String) (actualFormula : String) :
    Except Fault Unit := do
  refuseIf (MAX_U64 < effectiveAtUnixS) (.value "effective_at_unix_s must be a u64")
  refuseIf (feeProfile.programVersion ≠ PUMP_STATIC_PROGRAM_CONTRACT_V1)
    (.pumpQuote .unsupportedProgramVersion)
  refuseIf (actualFormula ∉ supportedFormulas) (.pumpQuote .unsupportedFormulaVersion)
  refuseIf (¬ (feeProfile.effectiveFromUnixS ≤ effectiveAtUnixS ∧
      effectiveAtUnixS < feeProfile.effectiveUntilUnixS)) (.pumpQuote .profileNotEffective)
  refuseIf (state.lifecycle = .unknown) (.pumpQuote .unknownLifecycle)
  refuseIf (state.lifecycle = .completed) (.pumpQuote .curveCompleted)
  refuseIf (state.lifecycle = .migrated) (.pumpQuote .pumpswapRoutingForbidden)
  refuseIf (state.mode = .unknown) (.pumpQuote .unknownMode)

/-! ## Quotes -/

/-- The amount the curve formula is applied to: the modern formula takes one lamport off. -/
def curveSolOfNet (buyFormulaVersion : String) (netCurveSol : Int) : Except Fault Nat :=
  if buyFormulaVersion = PUMP_BUY_EXACT_GROSS_SOL_FORMULA_V1 then
    if netCurveSol ≤ 1 then .error (.pumpQuote .outputOutOfBounds)
    else .ok (netCurveSol.toNat - 1)
  else
    if netCurveSol ≤ 0 then .error (.pumpQuote .outputOutOfBounds) else .ok netCurveSol.toNat

/-- Quote `buy_exact_sol_in` from a fixed gross budget. -/
def buyQuote (state : PumpCurveStateV1) (spendableGrossSolLamports : Nat)
    (feeProfile : PumpFeeProfile) (effectiveAtUnixS : Nat) : Except Fault PumpBuyQuote := do
  validateQuoteContract state feeProfile effectiveAtUnixS SUPPORTED_BUY_FORMULAS
    feeProfile.buyFormulaVersion
  refuseIf (feeProfile.buyFormulaVersion = PUMP_BUY_LEGACY_EXACT_NET_SOL_FORMULA_V1 ∧
      state.mode ≠ .normal) (.pumpQuote .unsupportedFormulaVersion)
  requireQuoteInput spendableGrossSolLamports
  let totalFeeBps := feeProfile.protocolFeeBps + feeProfile.creatorFeeBps
  let scaled ← checkedMulU128 spendableGrossSolLamports BASIS_POINTS_DENOMINATOR
  let initialNetSol := scaled / (BASIS_POINTS_DENOMINATOR + totalFeeBps)
  let protocolFee ← feeCeil initialNetSol feeProfile.protocolFeeBps
  let creatorFee ← feeCeil initialNetSol feeProfile.creatorFeeBps
  let grossBeforeAdjustment := initialNetSol + protocolFee + creatorFee
  let budgetExcess := grossBeforeAdjustment - spendableGrossSolLamports
  -- the excess is one lamport at most, so a positive net amount stays non-negative
  let netCurveSol : Int := (initialNetSol : Int) - budgetExcess
  let curveSol ← curveSolOfNet feeProfile.buyFormulaVersion netCurveSol
  let _ ← checkedAddU64 state.virtualSolReservesLamports netCurveSol.toNat
  let _ ← checkedAddU64 state.realSolReservesLamports netCurveSol.toNat
  let product ← checkedMulU128 curveSol state.virtualTokenReservesAtomic
  let tokensOut := product / (state.virtualSolReservesLamports + curveSol)
  refuseIf (tokensOut = 0 ∨ state.virtualTokenReservesAtomic ≤ tokensOut)
    (.pumpQuote .outputOutOfBounds)
  refuseIf (state.realTokenReservesAtomic < tokensOut) (.pumpQuote .insufficientRealTokenReserves)
  let fees ← feeBreakdown state.mode protocolFee creatorFee
  let grossSpent := netCurveSol.toNat + fees.totalFeeLamports
  refuseIf (spendableGrossSolLamports < grossSpent) (.pumpQuote .arithmeticOverflow)
  PumpBuyQuote.checked ⟨feeProfile.buyFormulaVersion, spendableGrossSolLamports, grossSpent,
    initialNetSol, netCurveSol.toNat, tokensOut, fees⟩

/-- Quote selling the supplied full token balance into the curve. -/
def sellQuote (state : PumpCurveStateV1) (tokensInAtomic : Nat) (feeProfile : PumpFeeProfile)
    (effectiveAtUnixS : Nat) (liquidityPolicy : PumpSellLiquidityPolicy) :
    Except Fault PumpSellQuote := do
  validateQuoteContract state feeProfile effectiveAtUnixS SUPPORTED_SELL_FORMULAS
    feeProfile.sellFormulaVersion
  requireQuoteInput tokensInAtomic
  let _ ← checkedAddU64 state.virtualTokenReservesAtomic tokensInAtomic
  let _ ← checkedAddU64 state.realTokenReservesAtomic tokensInAtomic
  let product ← checkedMulU128 tokensInAtomic state.virtualSolReservesLamports
  let grossCurveSol := product / (state.virtualTokenReservesAtomic + tokensInAtomic)
  refuseIf (grossCurveSol = 0 ∨ state.virtualSolReservesLamports ≤ grossCurveSol)
    (.pumpQuote .outputOutOfBounds)
  let syntheticShortfall := grossCurveSol - state.realSolReservesLamports
  refuseIf (liquidityPolicy = .realReserveCappedV1 ∧ 0 < syntheticShortfall)
    (.pumpQuote .insufficientRealSolReserves)
  let protocolFee ← feeCeil grossCurveSol feeProfile.protocolFeeBps
  let creatorFee ← feeCeil grossCurveSol feeProfile.creatorFeeBps
  let totalFee := protocolFee + creatorFee
  refuseIf (grossCurveSol ≤ totalFee) (.pumpQuote .outputOutOfBounds)
  let solOut := grossCurveSol - totalFee
  let fees ← feeBreakdown state.mode protocolFee creatorFee
  PumpSellQuote.checked ⟨PUMP_SELL_EXACT_TOKEN_IN_FORMULA_V1, tokensInAtomic, grossCurveSol,
    solOut, liquidityPolicy, state.realSolReservesLamports, syntheticShortfall, fees⟩

/-! ## What quotes can stop with -/

/-- A quote is refused with a quote error, or was asked for a time that is no u64. -/
def QuoteRefusal (effectiveAtUnixS : Nat) (e : Fault) : Prop :=
  (∃ code, e = .pumpQuote code) ∨ MAX_U64 < effectiveAtUnixS ∧ ∃ message, e = .value message

section Refusals

variable {state : PumpCurveStateV1} {profile : PumpFeeProfile} {t amount : Nat}

theorem stops_checkedMulU128 (l r : Nat) : Stops (QuoteRefusal t) (checkedMulU128 l r) := by
  rw [checkedMulU128]
  exact Stops.ite (fun _ => stops_error (.inl ⟨_, rfl⟩)) fun _ => stops_ok _

theorem stops_checkedAddU64 (l r : Nat) : Stops (QuoteRefusal t) (checkedAddU64 l r) := by
  rw [checkedAddU64]
  exact Stops.ite (fun _ => stops_error (.inl ⟨_, rfl⟩)) fun _ => stops_ok _

theorem stops_feeCeil (a f : Nat) : Stops (QuoteRefusal t) (feeCeil a f) := by
  rw [feeCeil]
  refine Stops.ite (fun _ => stops_ok _) fun _ => ?_
  exact (stops_checkedMulU128 a f).bind fun _ _ => stops_ok _

theorem stops_requireQuoteInput (value : Nat) :
    Stops (QuoteRefusal t) (requireQuoteInput value) :=
  stops_refuseIf fun _ => .inl ⟨_, rfl⟩

theorem stops_feeRouting (mode : PumpMode) : Stops (QuoteRefusal t) (feeRouting mode) := by
  intro e he
  cases mode <;> cases he
  exact .inl ⟨_, rfl⟩

theorem stops_validateQuoteContract (supported : List String) (actual : String) :
    Stops (QuoteRefusal t) (validateQuoteContract state profile t supported actual) := by
  rw [validateQuoteContract]
  refine (stops_refuseIf fun h => .inr ⟨h, _, rfl⟩).bind fun _ _ => ?_
  iterate 6 refine (stops_refuseIf fun _ => .inl ⟨_, rfl⟩).bind fun _ _ => ?_
  exact stops_refuseIf fun _ => .inl ⟨_, rfl⟩

/-! ## Fees -/

/-- A fee, rounded up. -/
def ceilFee (amount feeBps : Nat) : Nat :=
  (amount * feeBps + BASIS_POINTS_DENOMINATOR - 1) / BASIS_POINTS_DENOMINATOR

theorem feeCeil_eq_ok {a f r : Nat} (h : feeCeil a f = .ok r) : r = ceilFee a f := by
  rw [feeCeil] at h
  split at h
  · rename_i hf
    cases h
    subst hf
    simp [ceilFee, BASIS_POINTS_DENOMINATOR]
  · obtain ⟨n, hn, h⟩ := bind_eq_ok.mp h
    rw [checkedMulU128] at hn
    split at hn
    · cases hn
    · cases hn
      cases h
      rfl

theorem ceilFee_bounds (a f : Nat) :
    a * f ≤ BASIS_POINTS_DENOMINATOR * ceilFee a f ∧
      BASIS_POINTS_DENOMINATOR * ceilFee a f < a * f + BASIS_POINTS_DENOMINATOR := by
  have hd : BASIS_POINTS_DENOMINATOR = 10000 := rfl
  rw [ceilFee, hd]
  omega

theorem ceilFee_le {a f : Nat} (hf : f < BASIS_POINTS_DENOMINATOR) : ceilFee a f ≤ a := by
  have h := (ceilFee_bounds a f).2
  have hd : BASIS_POINTS_DENOMINATOR = 10000 := rfl
  have h1 : a * f + a ≤ a * 10000 := by nlinarith
  rcases Nat.eq_zero_or_pos a with rfl | ha
  · rw [hd, Nat.zero_mul] at h
    omega
  · rw [hd] at h
    omega

theorem feeBreakdown_eq_ok {mode : PumpMode} {p c : Nat} {fees : PumpFeeBreakdown}
    (h : feeBreakdown mode p c = .ok fees) :
    fees.protocolFeeLamports = p ∧ fees.creatorFeeLamports = c ∧
      fees.totalFeeLamports = p + c ∧
      (fees.cashbackReceivableLamports = none ∨ fees.cashbackReceivableLamports = some c) := by
  simp only [feeBreakdown, bind_eq_ok, refuseIf_eq_ok, exists_const, Except.ok.injEq] at h
  obtain ⟨routing, _, _, _, rfl⟩ := h
  refine ⟨rfl, rfl, rfl, ?_⟩
  simp only
  split
  · exact .inr rfl
  · exact .inl rfl

theorem stops_feeBreakdown {mode : PumpMode} {p c : Nat} (hp : p ≤ MAX_U64) (hc : c ≤ MAX_U64) :
    Stops (QuoteRefusal t) (feeBreakdown mode p c) := by
  rw [feeBreakdown]
  refine (stops_feeRouting mode).bind fun _ _ => ?_
  refine (stops_refuseIf fun h => absurd h (by omega)).bind fun _ _ => ?_
  exact (stops_refuseIf fun h => absurd h (by omega)).bind fun _ _ => stops_ok _

end Refusals

/-! ## Buying -/

/-- The net amount a budget stands for before its fees are rounded up. -/
def netOfBudget (budget : Nat) (profile : PumpFeeProfile) : Nat :=
  budget * BASIS_POINTS_DENOMINATOR /
    (BASIS_POINTS_DENOMINATOR + (profile.protocolFeeBps + profile.creatorFeeBps))

/-- That net amount with its two fees. -/
def grossOfNet (budget : Nat) (profile : PumpFeeProfile) : Nat :=
  netOfBudget budget profile + ceilFee (netOfBudget budget profile) profile.protocolFeeBps
    + ceilFee (netOfBudget budget profile) profile.creatorFeeBps

/-- Rounding moves a budget by one lamport at most, either way. -/
theorem grossOfNet_bounds (budget : Nat) (profile : PumpFeeProfile) :
    budget ≤ grossOfNet budget profile + 1 ∧ grossOfNet budget profile ≤ budget + 1 := by
  have hd : BASIS_POINTS_DENOMINATOR = 10000 := rfl
  have hT := profile.fees_lt
  obtain ⟨hp1, hp2⟩ := ceilFee_bounds (netOfBudget budget profile) profile.protocolFeeBps
  obtain ⟨hc1, hc2⟩ := ceilFee_bounds (netOfBudget budget profile) profile.creatorFeeBps
  have hn1 : netOfBudget budget profile
      * (10000 + (profile.protocolFeeBps + profile.creatorFeeBps)) ≤ budget * 10000 := by
    rw [netOfBudget, hd]
    exact Nat.div_mul_le_self _ _
  have hn2 : budget * 10000 < netOfBudget budget profile
      * (10000 + (profile.protocolFeeBps + profile.creatorFeeBps))
      + (10000 + (profile.protocolFeeBps + profile.creatorFeeBps)) := by
    rw [netOfBudget, hd]
    exact Nat.lt_div_mul_add (by omega)
  rw [grossOfNet]
  rw [hd] at *
  generalize ceilFee (netOfBudget budget profile) profile.protocolFeeBps = p at *
  generalize ceilFee (netOfBudget budget profile) profile.creatorFeeBps = c at *
  generalize netOfBudget budget profile = n at *
  rw [Nat.mul_add, Nat.mul_add] at hn1 hn2
  omega

/-- What a buy quote holds. -/
structure BuyQuoted (state : PumpCurveStateV1) (budget : Nat) (profile : PumpFeeProfile)
    (q : PumpBuyQuote) : Prop where
  spendable : q.spendableGrossSolLamports = budget
  spent : q.grossSolSpentLamports = min (grossOfNet budget profile) budget
  conserves : q.grossSolSpentLamports = q.netCurveSolLamports + q.fees.totalFeeLamports
  net_pos : 0 < q.netCurveSolLamports
  tokens_pos : 0 < q.tokensOutAtomic
  tokens_le : q.tokensOutAtomic ≤ state.realTokenReservesAtomic
  cashback : q.fees.cashbackReceivableLamports = none ∨
    q.fees.cashbackReceivableLamports = some q.fees.creatorFeeLamports

section Buying

variable {state : PumpCurveStateV1} {budget : Nat} {profile : PumpFeeProfile} {t : Nat}

theorem pos_of_curveSolOfNet {formula : String} {net : Int} {curve : Nat}
    (h : curveSolOfNet formula net = .ok curve) : 0 < net := by
  rw [curveSolOfNet] at h
  split at h
  · split at h
    · cases h
    · omega
  · split at h
    · cases h
    · omega

theorem stops_curveSolOfNet (formula : String) (net : Int) :
    Stops (QuoteRefusal t) (curveSolOfNet formula net) := by
  rw [curveSolOfNet]
  refine Stops.ite (fun _ => ?_) fun _ => ?_
  · exact Stops.ite (fun _ => stops_error (.inl ⟨_, rfl⟩)) fun _ => stops_ok _
  · exact Stops.ite (fun _ => stops_error (.inl ⟨_, rfl⟩)) fun _ => stops_ok _

theorem PumpBuyQuote.checked_eq_ok {q q' : PumpBuyQuote} (h : q.checked = .ok q') : q' = q := by
  simp only [checked, bind_eq_ok, refuseIf_eq_ok, exists_const, Except.ok.injEq] at h
  exact h.2.2.2.2.2.2.2.2.symm

theorem buyQuote_eq_ok {q : PumpBuyQuote} (h : buyQuote state budget profile t = .ok q) :
    BuyQuoted state budget profile q := by
  simp only [buyQuote, bind_eq_ok, refuseIf_eq_ok, exists_const] at h
  obtain ⟨_, _, _, _, _, scaled, hscaled, p, hp, c, hc, curve, hcurve, _, _, _, _, product,
    hproduct, htokens, hreal, fees, hfees, hover, hq⟩ := h
  have hn : scaled / (BASIS_POINTS_DENOMINATOR + (profile.protocolFeeBps + profile.creatorFeeBps))
      = netOfBudget budget profile := by
    rw [checkedMulU128] at hscaled
    split at hscaled
    · cases hscaled
    · cases hscaled
      rfl
  rw [hn] at hp hc hcurve hover hq
  have hp' := feeCeil_eq_ok hp
  have hc' := feeCeil_eq_ok hc
  obtain ⟨hf1, hf2, hf3, hf4⟩ := feeBreakdown_eq_ok hfees
  obtain ⟨hb1, hb2⟩ := grossOfNet_bounds budget profile
  have hgross : netOfBudget budget profile + p + c = grossOfNet budget profile := by
    rw [grossOfNet, hp', hc']
  rw [hgross] at hcurve hover hq
  have hnet := pos_of_curveSolOfNet hcurve
  have hspent := (PumpBuyQuote.checked_eq_ok hq)
  subst hspent
  refine ⟨rfl, ?_, rfl, ?_, ?_, ?_, ?_⟩
  · simp only [hf3]
    omega
  · simp only
    omega
  · exact Nat.pos_of_ne_zero fun h0 => htokens (.inl h0)
  · exact not_lt.mp hreal
  · simp only [hf2]
    exact hf4

/-- **A buy spends its whole budget or one lamport less.** -/
theorem BuyQuoted.spent_bounds {q : PumpBuyQuote} (h : BuyQuoted state budget profile q) :
    q.grossSolSpentLamports ≤ budget ∧ budget ≤ q.grossSolSpentLamports + 1 := by
  have h1 := grossOfNet_bounds budget profile
  rw [h.spent]
  omega

theorem stops_buyQuote : Stops (QuoteRefusal t) (buyQuote state budget profile t) := by
  have hT := profile.fees_lt
  rw [buyQuote]
  refine (stops_validateQuoteContract _ _).bind fun _ _ => ?_
  refine (stops_refuseIf fun _ => .inl ⟨_, rfl⟩).bind fun _ _ => ?_
  refine (stops_requireQuoteInput _).bind fun _ hin => ?_
  refine (stops_checkedMulU128 _ _).bind fun scaled hscaled => ?_
  have hn : scaled / (BASIS_POINTS_DENOMINATOR + (profile.protocolFeeBps + profile.creatorFeeBps))
      = netOfBudget budget profile := by
    rw [checkedMulU128] at hscaled
    split at hscaled
    · cases hscaled
    · cases hscaled
      rfl
  simp only [hn]
  obtain ⟨hb1, hb2⟩ := grossOfNet_bounds budget profile
  refine (stops_feeCeil _ _).bind fun p hp => (stops_feeCeil _ _).bind fun c hc => ?_
  have hp' := feeCeil_eq_ok hp
  have hc' := feeCeil_eq_ok hc
  have hgross : netOfBudget budget profile + p + c = grossOfNet budget profile := by
    rw [grossOfNet, hp', hc']
  rw [hgross]
  have hbudget : 0 < budget ∧ budget ≤ MAX_U64 := by
    have h := refuseIf_eq_ok.mp hin
    rw [outsidePositiveU64, not_or] at h
    omega
  have hpn : p ≤ netOfBudget budget profile := by
    rw [hp']
    exact ceilFee_le (by omega)
  have hcn : c ≤ netOfBudget budget profile := by
    rw [hc']
    exact ceilFee_le (by omega)
  refine (stops_curveSolOfNet _ _).bind fun curve hcurve => ?_
  have hnet := pos_of_curveSolOfNet hcurve
  have hnb : netOfBudget budget profile ≤ budget := by
    rw [netOfBudget]
    refine (Nat.div_le_div_left (Nat.le_add_right _ _) (by decide)).trans ?_
    rw [Nat.mul_div_cancel _ (by decide)]
  refine (stops_checkedAddU64 _ _).bind fun _ _ => ?_
  refine (stops_checkedAddU64 _ _).bind fun _ _ => ?_
  refine (stops_checkedMulU128 _ _).bind fun product _ => ?_
  refine (stops_refuseIf fun _ => .inl ⟨_, rfl⟩).bind fun _ htokens => ?_
  refine (stops_refuseIf fun _ => .inl ⟨_, rfl⟩).bind fun _ hreal => ?_
  refine (stops_feeBreakdown (by omega) (by omega)).bind fun fees hfees => ?_
  refine (stops_refuseIf fun _ => .inl ⟨_, rfl⟩).bind fun _ hover => ?_
  -- what is left are the checks of the quote's constructor, which all pass
  rw [refuseIf_eq_ok] at htokens hreal hover
  have hreal_le := state.real_token_le
  obtain ⟨hf1, hf2, hf3, hf4⟩ := feeBreakdown_eq_ok hfees
  generalize product / (state.virtualSolReservesLamports + curve) = tokensOut at *
  intro e he
  simp only [PumpBuyQuote.checked, bind_eq_error, refuseIf_eq_error, refuseIf_eq_ok, hf3,
    exists_const, reduceCtorEq, and_false, or_false] at he
  simp only [outsidePositiveU64] at he
  exfalso
  omega

end Buying

/-! ## Selling -/

/-- What a sell quote holds. -/
structure SellQuoted (state : PumpCurveStateV1) (tokens : Nat) (policy : PumpSellLiquidityPolicy)
    (q : PumpSellQuote) : Prop where
  tokens_eq : q.tokensInAtomic = tokens
  policy_eq : q.liquidityPolicy = policy
  out_pos : 0 < q.solOutLamports
  tokens_pos : 0 < tokens
  conserves : q.grossCurveSolLamports = q.solOutLamports + q.fees.totalFeeLamports
  observed : q.observedRealSolReservesLamports = state.realSolReservesLamports
  shortfall : q.syntheticShortfallLamports
    = q.grossCurveSolLamports - q.observedRealSolReservesLamports
  capped : policy = .realReserveCappedV1 → q.syntheticShortfallLamports = 0
  cashback : q.fees.cashbackReceivableLamports = none ∨
    q.fees.cashbackReceivableLamports = some q.fees.creatorFeeLamports

section Selling

variable {state : PumpCurveStateV1} {tokens : Nat} {profile : PumpFeeProfile} {t : Nat}
  {policy : PumpSellLiquidityPolicy}

theorem PumpSellQuote.checked_eq_ok {q q' : PumpSellQuote} (h : q.checked = .ok q') : q' = q := by
  simp only [checked, bind_eq_ok, refuseIf_eq_ok, exists_const, Except.ok.injEq] at h
  exact h.2.2.2.2.2.2.2.2.symm

theorem sellQuote_eq_ok {q : PumpSellQuote} (h : sellQuote state tokens profile t policy = .ok q) :
    SellQuoted state tokens policy q := by
  simp only [sellQuote, bind_eq_ok, refuseIf_eq_ok, exists_const] at h
  obtain ⟨_, _, _, hin, _, _, _, _, product, _, hgross, hcap, p, hp, c, hc, hfee, fees, hfees,
    hq⟩ := h
  obtain ⟨hf1, hf2, hf3, hf4⟩ := feeBreakdown_eq_ok hfees
  have hq' := PumpSellQuote.checked_eq_ok hq
  subst hq'
  rw [requireQuoteInput, refuseIf_eq_ok, outsidePositiveU64, not_or] at hin
  refine ⟨rfl, rfl, ?_, by omega, ?_, rfl, rfl, fun h => ?_, ?_⟩
  · simp only
    omega
  · simp only [hf3]
    omega
  · by_contra h0
    exact hcap ⟨h, Nat.pos_of_ne_zero h0⟩
  · simp only [hf2]
    exact hf4

theorem stops_sellQuote : Stops (QuoteRefusal t) (sellQuote state tokens profile t policy) := by
  rw [sellQuote]
  refine (stops_validateQuoteContract _ _).bind fun _ _ => ?_
  refine (stops_requireQuoteInput _).bind fun _ hin => ?_
  refine (stops_checkedAddU64 _ _).bind fun _ _ => ?_
  refine (stops_checkedAddU64 _ _).bind fun _ _ => ?_
  refine (stops_checkedMulU128 _ _).bind fun product _ => ?_
  refine (stops_refuseIf fun _ => .inl ⟨_, rfl⟩).bind fun _ hgross => ?_
  refine (stops_refuseIf fun _ => .inl ⟨_, rfl⟩).bind fun _ hcap => ?_
  refine (stops_feeCeil _ _).bind fun p hp => (stops_feeCeil _ _).bind fun c hc => ?_
  refine (stops_refuseIf fun _ => .inl ⟨_, rfl⟩).bind fun _ hfee => ?_
  rw [refuseIf_eq_ok] at hgross hcap hfee
  rw [requireQuoteInput, refuseIf_eq_ok, outsidePositiveU64, not_or] at hin
  have hsol := state.virtual_sol_le
  have hreal := state.real_sol_le
  refine (stops_feeBreakdown (by omega) (by omega)).bind fun fees hfees => ?_
  obtain ⟨hf1, hf2, hf3, hf4⟩ := feeBreakdown_eq_ok hfees
  generalize product / (state.virtualTokenReservesAtomic + tokens) = gross at *
  intro e he
  simp only [PumpSellQuote.checked, bind_eq_error, refuseIf_eq_error, refuseIf_eq_ok, hf3,
    exists_const, reduceCtorEq, and_false, or_false] at he
  simp only [outsidePositiveU64] at he
  exfalso
  by_cases hpolicy : policy = .realReserveCappedV1
  · have hcap' : ¬ 0 < gross - state.realSolReservesLamports := fun h => hcap ⟨hpolicy, h⟩
    omega
  · simp only [hpolicy, false_and, and_false, or_false] at he
    omega

end Selling

end OnchainBacktest
