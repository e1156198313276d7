import OnchainBacktest.Lib.ProductCurve
import OnchainBacktest.Plugins.PumpModel

/-!
# Rounding of pump quotes

What the bonding curve pays is a constant-product output, rounded down, of the net amount that
enters it; fees are rounded up one by one.  A buy therefore grows with its budget and never lowers
the product of the virtual reserves (`buyQuote_curve`), and selling what was bought never returns
more than what entered the curve (`no_rounding_arbitrage`).

Two fees rounded up by themselves can both grow with one lamport of output: what a sell leaves after
them may then fall by one lamport, and by no more (`sellQuote_curve`).
-/

set_option autoImplicit false

namespace OnchainBacktest

open Checked

/-! ## Fees that round up -/

/-- One more lamport never costs more than a lamport of fee. -/
theorem ceilFee_add_le {f : Nat} (hf : f ≤ BASIS_POINTS_DENOMINATOR) (a d : Nat) :
    ceilFee (a + d) f ≤ ceilFee a f + d := by
  have hlow := (ceilFee_bounds a f).1
  have hhigh := (ceilFee_bounds (a + d) f).2
  have hd : BASIS_POINTS_DENOMINATOR = 10000 := rfl
  have hgrow : d * f ≤ d * 10000 := Nat.mul_le_mul_left d hf
  rw [hd] at hlow hhigh
  rw [Nat.add_mul] at hhigh
  omega

@[simp] theorem ceilFee_zero (a : Nat) : ceilFee a 0 = 0 := by
  simp [ceilFee, BASIS_POINTS_DENOMINATOR]

/-- Two fees together cost one lamport more than what is added, at most. -/
theorem ceilFees_add_le {f g : Nat} (hfg : f + g ≤ BASIS_POINTS_DENOMINATOR) (a d : Nat) :
    ceilFee (a + d) f + ceilFee (a + d) g ≤ ceilFee a f + ceilFee a g + d + 1 := by
  have hf := (ceilFee_bounds a f).1
  have hg := (ceilFee_bounds a g).1
  have hf' := (ceilFee_bounds (a + d) f).2
  have hg' := (ceilFee_bounds (a + d) g).2
  have hd : BASIS_POINTS_DENOMINATOR = 10000 := rfl
  have hgrow : d * (f + g) ≤ d * 10000 := Nat.mul_le_mul_left d hfg
  rw [hd] at hf hg hf' hg'
  rw [Nat.add_mul] at hf' hg'
  rw [Nat.mul_add] at hgrow
  omega

/-! ## A new curve -/

theorem staticFees_lt : 95 + 30 < BASIS_POINTS_DENOMINATOR := by decide

/-- `static_95_30`. -/
def PumpFeeProfile.static95_30 (effectiveFromUnixS effectiveUntilUnixS : Nat)
    (until_le : effectiveUntilUnixS ≤ MAX_U64) (interval : effectiveFromUnixS < effectiveUntilUnixS) :
    PumpFeeProfile where
  programVersion := PUMP_STATIC_PROGRAM_CONTRACT_V1
  buyFormulaVersion := PUMP_BUY_EXACT_GROSS_SOL_FORMULA_V1
  sellFormulaVersion := PUMP_SELL_EXACT_TOKEN_IN_FORMULA_V1
  effectiveFromUnixS
  effectiveUntilUnixS
  protocolFeeBps := 95
  creatorFeeBps := 30
  until_le
  interval
  fees_lt := staticFees_lt

theorem firstSecond_le : 1 ≤ MAX_U64 := by decide

/-- The profile, effective at the first second. -/
def firstProfile : PumpFeeProfile := .static95_30 0 1 firstSecond_le Nat.zero_lt_one

/-- An active curve of the given reserves. -/
def activeCurve (virtualToken virtualSol realToken realSol supply : Nat)
    (h : 0 < virtualToken ∧ 0 < virtualSol ∧ 0 < supply ∧ virtualToken ≤ MAX_U64 ∧
      virtualSol ≤ MAX_U64 ∧ realSol ≤ MAX_U64 ∧ supply ≤ MAX_U64 ∧ realToken ≤ supply) :
    PumpCurveStateV1 where
  virtualTokenReservesAtomic := virtualToken
  virtualSolReservesLamports := virtualSol
  realTokenReservesAtomic := realToken
  realSolReservesLamports := realSol
  tokenTotalSupplyAtomic := supply
  lifecycle := .active
  mode := .normal
  virtual_token_pos := h.1
  virtual_token_le := h.2.2.2.1
  virtual_sol_pos := h.2.1
  virtual_sol_le := h.2.2.2.2.1
  real_token_le := h.2.2.2.2.2.2.2.trans h.2.2.2.2.2.2.1
  real_sol_le := h.2.2.2.2.2.1
  supply_pos := h.2.2.1
  supply_le := h.2.2.2.2.2.2.1
  real_token_le_supply := h.2.2.2.2.2.2.2

theorem newCurve_fits : 0 < 1073000000000000 ∧ 0 < 30000000000 ∧ 0 < 1000000000000000 ∧
    1073000000000000 ≤ MAX_U64 ∧ 30000000000 ≤ MAX_U64 ∧ 0 ≤ MAX_U64 ∧
    1000000000000000 ≤ MAX_U64 ∧ 793100000000000 ≤ 1000000000000000 := by
  decide

/-- A curve nobody has traded on. -/
def newCurve : PumpCurveStateV1 :=
  activeCurve 1073000000000000 30000000000 793100000000000 0 1000000000000000 newCurve_fits

/-- The fees of a trade on the curve. -/
def curveFees (protocolFeeLamports creatorFeeLamports : Nat) : PumpFeeBreakdown :=
  ⟨protocolFeeLamports, creatorFeeLamports, ⟨.normalRecipient, .creatorVault⟩, none⟩

/-- A sell into the curve. -/
def firstSell (tokensInAtomic grossCurveSolLamports solOutLamports : Nat) (fees : PumpFeeBreakdown) :
    PumpSellQuote where
  formulaVersion := PUMP_SELL_EXACT_TOKEN_IN_FORMULA_V1
  tokensInAtomic
  grossCurveSolLamports
  solOutLamports
  liquidityPolicy := .virtualReserveOutputWithExplicitSyntheticShortfallV1
  observedRealSolReservesLamports := 0
  syntheticShortfallLamports := grossCurveSolLamports
  fees

/-- The quote of a buy for one SOL. -/
def firstBuy : PumpBuyQuote where
  formulaVersion := PUMP_BUY_EXACT_GROSS_SOL_FORMULA_V1
  spendableGrossSolLamports := 1000000000
  grossSolSpentLamports := 1000000000
  feeBasisSolLamports := 987654320
  netCurveSolLamports := 987654320
  tokensOutAtomic := 34199203120618
  fees := curveFees 9382717 2962963

/-! What the curve quotes. -/

theorem buyQuote_newCurve : buyQuote newCurve 1000000000 firstProfile 0 = .ok firstBuy := by
  decide +kernel

theorem sellQuote_newCurve :
    sellQuote newCurve 71540000 firstProfile 0
        .virtualReserveOutputWithExplicitSyntheticShortfallV1
      = .ok (firstSell 71540000 2000 1975 (curveFees 19 6)) ∧
    sellQuote newCurve 71569105 firstProfile 0
        .virtualReserveOutputWithExplicitSyntheticShortfallV1
      = .ok (firstSell 71569105 2001 1974 (curveFees 20 7)) := by
  decide

/-! ## Buying -/

section Buying

variable {state : PumpCurveStateV1} {budget budget' : Nat} {profile : PumpFeeProfile} {t : Nat}

/-- What enters the curve: the net amount, less the lamport by which rounded fees leave the
budget. -/
def netCurve (budget : Nat) (profile : PumpFeeProfile) : Int :=
  netOfBudget budget profile - (grossOfNet budget profile - budget : Nat)

/-- A larger budget lets no less into the curve. -/
theorem netCurve_mono (h : budget ≤ budget') (profile : PumpFeeProfile) :
    netCurve budget profile ≤ netCurve budget' profile := by
  have hnet : netOfBudget budget profile ≤ netOfBudget budget' profile :=
    Nat.div_le_div_right (Nat.mul_le_mul_right _ h)
  rcases Nat.eq_or_lt_of_le hnet with heq | hlt
  · -- the same net amount has the same fees, and a larger budget has more room for them
    have hgross : grossOfNet budget profile = grossOfNet budget' profile := by
      rw [grossOfNet, grossOfNet, heq]
    rw [netCurve, netCurve, heq, hgross]
    omega
  · have hbound := (grossOfNet_bounds budget' profile).2
    rw [netCurve, netCurve]
    omega

/-- The curve formula takes at most the net amount, and grows with it. -/
theorem curveSolOfNet_le {formula : String} {net : Int} {curve : Nat}
    (h : curveSolOfNet formula net = .ok curve) : curve ≤ net.toNat := by
  rw [curveSolOfNet] at h
  split at h
  · split at h
    · cases h
    · cases h
      omega
  · split at h
    · cases h
    · cases h
      exact le_rfl

theorem curveSolOfNet_mono {formula : String} {net net' : Int} {curve curve' : Nat}
    (hnet : net ≤ net') (h : curveSolOfNet formula net = .ok curve)
    (h' : curveSolOfNet formula net' = .ok curve') : curve ≤ curve' := by
  rw [curveSolOfNet] at h h'
  split at h
  · rename_i hformula
    rw [if_pos hformula] at h'
    split at h
    · cases h
    · split at h'
      · cases h'
      · cases h
        cases h'
        omega
  · rename_i hformula
    rw [if_neg hformula] at h'
    split at h
    · cases h
    · split at h'
      · cases h'
      · cases h
        cases h'
        omega

/-- What a buy quote takes from the curve, and for what. -/
structure BoughtFrom (state : PumpCurveStateV1) (budget : Nat) (profile : PumpFeeProfile)
    (q : PumpBuyQuote) (curve : Nat) : Prop where
  formula : curveSolOfNet profile.buyFormulaVersion (netCurve budget profile) = .ok curve
  net : q.netCurveSolLamports = (netCurve budget profile).toNat
  tokens : q.tokensOutAtomic = ProductCurve.output state.virtualSolReservesLamports
    state.virtualTokenReservesAtomic curve
  tokens_lt : q.tokensOutAtomic < state.virtualTokenReservesAtomic
  virtual_fits : state.virtualSolReservesLamports + q.netCurveSolLamports ≤ MAX_U64
  real_fits : state.realSolReservesLamports + q.netCurveSolLamports ≤ MAX_U64

theorem checkedMulU128_eq_ok {l r n : Nat} (h : checkedMulU128 l r = .ok n) : n = l * r := by
  rw [checkedMulU128] at h
  split at h
  · cases h
  · cases h
    rfl

theorem checkedAddU64_eq_ok {l r n : Nat} (h : checkedAddU64 l r = .ok n) : l + r ≤ MAX_U64 := by
  rw [checkedAddU64] at h
  split at h
  · cases h
  · rename_i hle
    exact not_lt.mp hle

/-- **A buy quote is an output of the constant product.** -/
theorem buyQuote_curve {q : PumpBuyQuote} (h : buyQuote state budget profile t = .ok q) :
    ∃ curve, BoughtFrom state budget profile q curve := by
  simp only [buyQuote, bind_eq_ok, refuseIf_eq_ok, exists_const] at h
  obtain ⟨_, _, _, _, _, scaled, hscaled, p, hp, c, hc, curve, hcurve, _, hvirtual, _, hreal,
    product, hproduct, htokens, _, fees, _, _, hq⟩ := h
  have hn : scaled / (BASIS_POINTS_DENOMINATOR + (profile.protocolFeeBps + profile.creatorFeeBps))
      = netOfBudget budget profile := by
    rw [checkedMulU128_eq_ok hscaled, netOfBudget]
  rw [hn] at hp hc hcurve hvirtual hreal hq
  have hgross : netOfBudget budget profile + p + c = grossOfNet budget profile := by
    rw [grossOfNet, feeCeil_eq_ok hp, feeCeil_eq_ok hc]
  rw [hgross] at hcurve hvirtual hreal hq
  obtain rfl := PumpBuyQuote.checked_eq_ok hq
  refine ⟨curve, hcurve, rfl, ?_, ?_, checkedAddU64_eq_ok hvirtual, checkedAddU64_eq_ok hreal⟩
  · show product / (state.virtualSolReservesLamports + curve) = _
    rw [checkedMulU128_eq_ok hproduct, ProductCurve.output, Nat.mul_comm curve]
  · exact not_le.mp fun hle => htokens (.inr hle)

/-- What the curve formula takes is no more than what enters the curve. -/
theorem BoughtFrom.curve_le {q : PumpBuyQuote} {curve : Nat}
    (h : BoughtFrom state budget profile q curve) : curve ≤ q.netCurveSolLamports :=
  h.net ▸ curveSolOfNet_le h.formula

/-- **Buying from a curve.**  A quote is refused with a quote error.  It spends the budget or one
lamport less, pays no more than the real reserve, does not lower the product of the virtual
reserves, and pays no less for a larger budget. -/
theorem buyQuote_sound (state : PumpCurveStateV1) (profile : PumpFeeProfile) (t : Nat) :
    (∀ budget e, buyQuote state budget profile t = .error e → t ≤ MAX_U64 →
      ∃ code, e = .pumpQuote code) ∧
    (∀ budget q, buyQuote state budget profile t = .ok q →
      (q.grossSolSpentLamports ≤ budget ∧ budget ≤ q.grossSolSpentLamports + 1) ∧
      q.tokensOutAtomic ≤ state.realTokenReservesAtomic ∧
      ((state.virtualSolReservesLamports : Int) * state.virtualTokenReservesAtomic
        ≤ (state.virtualSolReservesLamports + q.netCurveSolLamports)
          * (state.virtualTokenReservesAtomic - q.tokensOutAtomic))) ∧
    ∀ budget budget' q q', budget ≤ budget' → buyQuote state budget profile t = .ok q →
      buyQuote state budget' profile t = .ok q' → q.tokensOutAtomic ≤ q'.tokensOutAtomic := by
  refine ⟨fun budget e he ht => ?_, fun budget q hq => ?_, fun budget budget' q q' hle hq hq' => ?_⟩
  · rcases stops_buyQuote e he with hcode | ⟨hlate, _⟩
    · exact hcode
    · exact absurd ht (not_le.mpr hlate)
  · have hquoted := buyQuote_eq_ok hq
    obtain ⟨curve, hcurve⟩ := buyQuote_curve hq
    refine ⟨hquoted.spent_bounds, hquoted.tokens_le, ?_⟩
    have hproduct := ProductCurve.product_le_of_le state.virtualSolReservesLamports
      state.virtualTokenReservesAtomic hcurve.curve_le
    rw [← hcurve.tokens] at hproduct
    have hcast := Int.ofNat_le.mpr hproduct
    push_cast [hcurve.tokens_lt.le] at hcast
    exact hcast
  · obtain ⟨curve, hcurve⟩ := buyQuote_curve hq
    obtain ⟨curve', hcurve'⟩ := buyQuote_curve hq'
    rw [hcurve.tokens, hcurve'.tokens]
    exact ProductCurve.output_mono state.virtual_sol_pos _
      (curveSolOfNet_mono (netCurve_mono hle profile) hcurve.formula hcurve'.formula)

/-- The first buy for one SOL. -/
theorem buyQuote_sound_new :
    firstBuy.tokensOutAtomic ≤ newCurve.realTokenReservesAtomic ∧
      (newCurve.virtualSolReservesLamports : Int) * newCurve.virtualTokenReservesAtomic
        ≤ (newCurve.virtualSolReservesLamports + firstBuy.netCurveSolLamports)
          * (newCurve.virtualTokenReservesAtomic - firstBuy.tokensOutAtomic) :=
  ((buyQuote_sound newCurve firstProfile 0).2.1 _ _ buyQuote_newCurve).2

end Buying

/-! ## Selling -/

section Selling

variable {state : PumpCurveStateV1} {tokens tokens' : Nat} {profile : PumpFeeProfile} {t : Nat}
  {policy : PumpSellLiquidityPolicy}

/-- What the curve pays for tokens. -/
def grossOutput (state : PumpCurveStateV1) (tokens : Nat) : Nat :=
  ProductCurve.output state.virtualTokenReservesAtomic state.virtualSolReservesLamports tokens

/-- What a sell quote takes from the curve. -/
structure SoldInto (state : PumpCurveStateV1) (tokens : Nat) (profile : PumpFeeProfile)
    (q : PumpSellQuote) : Prop where
  gross : q.grossCurveSolLamports = grossOutput state tokens
  fees : q.fees.totalFeeLamports = ceilFee (grossOutput state tokens) profile.protocolFeeBps
    + ceilFee (grossOutput state tokens) profile.creatorFeeBps

/-- **A sell quote is an output of the constant product less two fees.** -/
theorem sellQuote_curve {q : PumpSellQuote} (h : sellQuote state tokens profile t policy = .ok q) :
    SoldInto state tokens profile q := by
  simp only [sellQuote, bind_eq_ok, refuseIf_eq_ok, exists_const] at h
  obtain ⟨_, _, _, _, _, _, _, _, product, hproduct, _, _, p, hp, c, hc, _, fees, hfees, hq⟩ := h
  have hgross : product / (state.virtualTokenReservesAtomic + tokens) = grossOutput state tokens := by
    rw [checkedMulU128_eq_ok hproduct, grossOutput, ProductCurve.output, Nat.mul_comm tokens]
  rw [hgross] at hp hc hq
  obtain rfl := PumpSellQuote.checked_eq_ok hq
  refine ⟨rfl, ?_⟩
  rw [(feeBreakdown_eq_ok hfees).2.2.1, feeCeil_eq_ok hp, feeCeil_eq_ok hc]

/-- Where the real reserve covers what the curve pays, the policies quote alike. -/
theorem sellQuote_virtual (h : grossOutput state tokens ≤ state.realSolReservesLamports) :
    sellQuote state tokens profile t .virtualReserveOutputWithExplicitSyntheticShortfallV1
      = (sellQuote state tokens profile t .realReserveCappedV1).map fun q =>
          { q with liquidityPolicy := .virtualReserveOutputWithExplicitSyntheticShortfallV1 } := by
  rw [sellQuote, sellQuote]
  iterate 4
    rw [map_bind]
    refine bind_congr fun _ => ?_
  cases hproduct : checkedMulU128 tokens state.virtualSolReservesLamports with
  | error e => rfl
  | ok product =>
    have hgross : product / (state.virtualTokenReservesAtomic + tokens) = grossOutput state tokens := by
      rw [checkedMulU128_eq_ok hproduct, grossOutput, ProductCurve.output, Nat.mul_comm tokens]
    have hnone : grossOutput state tokens - state.realSolReservesLamports = 0 :=
      Nat.sub_eq_zero_of_le h
    simp only [ok_bind, hgross, hnone]
    rw [map_bind]
    refine bind_congr fun _ => ?_
    -- neither policy asks more of a quote without a shortfall
    rw [refuseIf_of_not (by simp), refuseIf_of_not (by simp), ok_bind, ok_bind]
    iterate 4
      rw [map_bind]
      refine bind_congr fun _ => ?_
    simp only [PumpSellQuote.checked]
    iterate 7
      rw [map_bind]
      refine bind_congr fun _ => ?_
    rw [refuseIf_of_not (by simp), refuseIf_of_not (by simp)]
    rfl

/-- **Selling into a curve.**  A quote is refused with a quote error, and splits what the curve pays
into output and fees.  More tokens never bring less out of the curve, and after the fees one lamport
less at most, none less when one of the two fees is free.  Where the real reserve covers what the
curve pays the two policies differ in their name alone; elsewhere the shortfall is what is missing. -/
theorem sellQuote_sound (state : PumpCurveStateV1) (profile : PumpFeeProfile) (t : Nat) :
    (∀ tokens policy e, sellQuote state tokens profile t policy = .error e → t ≤ MAX_U64 →
      ∃ code, e = .pumpQuote code) ∧
    (∀ tokens policy q, sellQuote state tokens profile t policy = .ok q →
      q.grossCurveSolLamports = q.solOutLamports + q.fees.totalFeeLamports) ∧
    (∀ tokens tokens' policy policy' q q', tokens ≤ tokens' →
      sellQuote state tokens profile t policy = .ok q →
      sellQuote state tokens' profile t policy' = .ok q' →
        q.grossCurveSolLamports ≤ q'.grossCurveSolLamports ∧
        q.solOutLamports ≤ q'.solOutLamports + 1 ∧
        (profile.protocolFeeBps = 0 ∨ profile.creatorFeeBps = 0 →
          q.solOutLamports ≤ q'.solOutLamports)) ∧
    ∀ tokens,
      (grossOutput state tokens ≤ state.realSolReservesLamports →
        sellQuote state tokens profile t .virtualReserveOutputWithExplicitSyntheticShortfallV1
          = (sellQuote state tokens profile t .realReserveCappedV1).map fun q =>
              { q with liquidityPolicy := .virtualReserveOutputWithExplicitSyntheticShortfallV1 }) ∧
      ∀ q, sellQuote state tokens profile t
            .virtualReserveOutputWithExplicitSyntheticShortfallV1 = .ok q →
        q.grossCurveSolLamports = grossOutput state tokens ∧
        (state.realSolReservesLamports < q.grossCurveSolLamports →
          q.syntheticShortfallLamports = q.grossCurveSolLamports - state.realSolReservesLamports) := by
  have hfees := profile.fees_lt
  refine ⟨fun tokens policy e he ht => ?_, fun tokens policy q hq => (sellQuote_eq_ok hq).conserves,
    fun tokens tokens' policy policy' q q' hle hq hq' => ?_,
    fun tokens => ⟨sellQuote_virtual, fun q hq => ⟨(sellQuote_curve hq).gross, fun _ => ?_⟩⟩⟩
  · rcases stops_sellQuote e he with hcode | ⟨hlate, _⟩
    · exact hcode
    · exact absurd ht (not_le.mpr hlate)
  · have hsold := sellQuote_curve hq
    have hsold' := sellQuote_curve hq'
    have hout := (sellQuote_eq_ok hq).conserves
    have hout' := (sellQuote_eq_ok hq').conserves
    have hgross : grossOutput state tokens ≤ grossOutput state tokens' :=
      ProductCurve.output_mono state.virtual_token_pos _ hle
    obtain ⟨d, hd⟩ := Nat.exists_eq_add_of_le hgross
    rw [hsold.gross, hsold.fees] at hout
    rw [hsold'.gross, hsold'.fees, hd] at hout'
    refine ⟨by rw [hsold.gross, hsold'.gross]; exact hgross, ?_, fun hfree => ?_⟩
    · have hboth := ceilFees_add_le hfees.le (grossOutput state tokens) d
      omega
    · have hprotocol := ceilFee_add_le (show profile.protocolFeeBps ≤ _ by omega)
        (grossOutput state tokens) d
      have hcreator := ceilFee_add_le (show profile.creatorFeeBps ≤ _ by omega)
        (grossOutput state tokens) d
      rcases hfree with hfree | hfree
      · rw [hfree] at hout hout'
        simp only [ceilFee_zero] at hout hout'
        omega
      · rw [hfree] at hout hout'
        simp only [ceilFee_zero] at hout hout'
        omega
  · have hquoted := sellQuote_eq_ok hq
    rw [hquoted.shortfall, hquoted.observed]

/-- **One more lamport out of the curve can leave one less after the fees**: both fees of 2001
lamports are one lamport more than those of 2000. -/
theorem net_output_falls :
    ¬ ∀ (state : PumpCurveStateV1) (profile : PumpFeeProfile) (t tokens tokens' : Nat)
      (policy : PumpSellLiquidityPolicy) (q q' : PumpSellQuote), tokens ≤ tokens' →
      sellQuote state tokens profile t policy = .ok q →
      sellQuote state tokens' profile t policy = .ok q' → q.solOutLamports ≤ q'.solOutLamports := by
  intro hall
  have hle := hall newCurve firstProfile 0 71540000 71569105 _ _ _ (by decide) sellQuote_newCurve.1
    sellQuote_newCurve.2
  exact absurd hle (by decide)

/-- The two sells. -/
theorem sellQuote_sound_new :
    (firstSell 71540000 2000 1975 (curveFees 19 6)).grossCurveSolLamports
        ≤ (firstSell 71569105 2001 1974 (curveFees 20 7)).grossCurveSolLamports ∧
      (firstSell 71540000 2000 1975 (curveFees 19 6)).solOutLamports
        ≤ (firstSell 71569105 2001 1974 (curveFees 20 7)).solOutLamports + 1 := by
  have h := (sellQuote_sound newCurve firstProfile 0).2.2.1 71540000 71569105 _ _ _ _ (by decide)
    sellQuote_newCurve.1 sellQuote_newCurve.2
  exact ⟨h.1, h.2.1⟩

end Selling

/-! ## Buying and selling back -/

section RoundTrip

variable {state after : PumpCurveStateV1} {budget : Nat} {profile profile' : PumpFeeProfile}
  {t t' : Nat} {policy : PumpSellLiquidityPolicy} {q : PumpBuyQuote} {s : PumpSellQuote}

/-- The curve after a buy: the net amount has gone in and the tokens have come out. -/
structure AfterBuy (state : PumpCurveStateV1) (q : PumpBuyQuote) (after : PumpCurveStateV1) :
    Prop where
  virtual_token : after.virtualTokenReservesAtomic
    = state.virtualTokenReservesAtomic - q.tokensOutAtomic
  virtual_sol : after.virtualSolReservesLamports
    = state.virtualSolReservesLamports + q.netCurveSolLamports
  real_token : after.realTokenReservesAtomic = state.realTokenReservesAtomic - q.tokensOutAtomic
  real_sol : after.realSolReservesLamports
    = state.realSolReservesLamports + q.netCurveSolLamports
  supply : after.tokenTotalSupplyAtomic = state.tokenTotalSupplyAtomic
  lifecycle : after.lifecycle = state.lifecycle
  mode : after.mode = state.mode

/-- **No rounding arbitrage.**  Selling exactly the bought tokens, into the curve that was bought
from or into the curve after the buy, takes at most what entered the curve out of it, so it returns
no more than was spent. -/
theorem no_rounding_arbitrage (hq : buyQuote state budget profile t = .ok q)
    (hafter : after = state ∨ AfterBuy state q after)
    (hs : sellQuote after q.tokensOutAtomic profile' t' policy = .ok s) :
    s.grossCurveSolLamports ≤ q.netCurveSolLamports ∧
      s.solOutLamports ≤ q.grossSolSpentLamports := by
  obtain ⟨curve, hcurve⟩ := buyQuote_curve hq
  have hbought := (buyQuote_eq_ok hq).conserves
  have hsold := (sellQuote_eq_ok hs).conserves
  have hgross : s.grossCurveSolLamports ≤ q.netCurveSolLamports := by
    rw [(sellQuote_curve hs).gross, grossOutput, hcurve.tokens]
    rcases hafter with rfl | hafter
    · exact (ProductCurve.output_output_le _ _ _).trans hcurve.curve_le
    · rw [hafter.virtual_token, hafter.virtual_sol, hcurve.tokens]
      exact ProductCurve.output_moved_le _ _ hcurve.curve_le
  exact ⟨hgross, by omega⟩

/-- Selling its tokens into the unchanged curve returns less. -/
theorem no_rounding_arbitrage_new :
    let sold := firstSell 34199203120618 926640924 915057912 (curveFees 8803089 2779923)
    sold.grossCurveSolLamports ≤ firstBuy.netCurveSolLamports ∧
      sold.solOutLamports ≤ firstBuy.grossSolSpentLamports := by
  have hsell : sellQuote newCurve firstBuy.tokensOutAtomic firstProfile 0
      .virtualReserveOutputWithExplicitSyntheticShortfallV1
      = .ok (firstSell 34199203120618 926640924 915057912 (curveFees 8803089 2779923)) := by
    decide
  exact no_rounding_arbitrage buyQuote_newCurve (.inl rfl) hsell

end RoundTrip

end OnchainBacktest
