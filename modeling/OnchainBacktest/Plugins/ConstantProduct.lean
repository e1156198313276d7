import OnchainBacktest.Lib.ProductCurve
import OnchainBacktest.Reference.ReferenceEngine

/-!
# The constant-product reference venue

An execution model that fills an order against the reserves of its pool, with a fee in basis points
of the input and explicit floor rounding.  What it gives is within the pool and grows with the
input, the product of the reserves does not fall, the postings of its plan conserve every asset and
take what was reserved for the order, and the engine accepts the plan (`constant_product_fills`).
An order is filled whenever the reserves and its own minimum allow it (`fills_iff`).
-/

set_option autoImplicit false

namespace OnchainBacktest

open Checked

/-- The constructor of a posting. -/
def Posting.make (account : LedgerAccount) (assetId : AssetId) (amountAtomic : Int) :
    Except Fault Posting :=
  if h : amountAtomic ≠ 0 then .ok ⟨account, assetId, amountAtomic, h⟩
  else .error (.value "zero-value postings are forbidden")

theorem Posting.make_eq_ok {account : LedgerAccount} {assetId : AssetId} {amountAtomic : Int}
    {p : Posting} (h : Posting.make account assetId amountAtomic = .ok p) :
    p.account = account ∧ p.assetId = assetId ∧ p.amountAtomic = amountAtomic := by
  rw [Posting.make] at h
  split_ifs at h
  cases h
  exact ⟨rfl, rfl, rfl⟩

theorem Posting.make_of_ne (account : LedgerAccount) (assetId : AssetId) {amountAtomic : Int}
    (h : amountAtomic ≠ 0) :
    Posting.make account assetId amountAtomic = .ok ⟨account, assetId, amountAtomic, h⟩ :=
  dif_pos h

namespace Reference

/-! ## The model -/

/-- Pure x*y=k execution. -/
structure ConstantProductExecutionModel where
  feeBps : Nat
  fee_lt : feeBps < 10000

/-- The constructor of a model. -/
def ConstantProductExecutionModel.make (feeBps : Int) :
    Except Fault ConstantProductExecutionModel :=
  if h : 0 ≤ feeBps ∧ feeBps < 10000 then
    .ok ⟨feeBps.toNat, (Int.toNat_lt h.1).mpr h.2⟩
  else .error (.value "fee_bps must be in [0, 10000)")

/-- Why an execution has no plan. -/
inductive ExecutionStop
  /-- `ExecutionRejected`. -/
  | rejected (code : String)
  /-- Any other exception. -/
  | failed (fault : Fault)

/-- An exception of a domain object, as one of an execution. -/
def failing {α : Type} (x : Except Fault α) : Except ExecutionStop α := x.mapError .failed

/-- The reserves an order trades against: what it pays to, what it is paid from, and whether it
sells asset A. -/
structure OrderedReserves where
  reserveIn : Nat
  reserveOut : Nat
  soldIsA : Bool
  deriving DecidableEq

/-- The reserves of a pool as an order sees them. -/
def orderedReserves (intent : SwapExactInIntent) (pool : PoolSnapshot) :
    Except ExecutionStop OrderedReserves :=
  if intent.soldAssetId = pool.assetAId ∧ intent.boughtAssetId = pool.assetBId then
    .ok ⟨pool.reserveAAtomic, pool.reserveBAtomic, true⟩
  else if intent.soldAssetId = pool.assetBId ∧ intent.boughtAssetId = pool.assetAId then
    .ok ⟨pool.reserveBAtomic, pool.reserveAAtomic, false⟩
  else .error (.rejected "POOL_ASSET_MISMATCH")

namespace ConstantProductExecutionModel

def fee (model : ConstantProductExecutionModel) (amountIn : Nat) : Nat :=
  amountIn * model.feeBps / 10000

def effectiveInput (model : ConstantProductExecutionModel) (amountIn : Nat) : Nat :=
  amountIn - model.fee amountIn

def amountOut (model : ConstantProductExecutionModel) (reserves : OrderedReserves)
    (amountIn : Nat) : Nat :=
  reserves.reserveOut * model.effectiveInput amountIn
    / (reserves.reserveIn + model.effectiveInput amountIn)

end ConstantProductExecutionModel

/-- The reserves of a pool after an order, A first. -/
def OrderedReserves.after (reserves : OrderedReserves) (effectiveInput amountOut : Nat) :
    Nat × Nat :=
  let nextIn := reserves.reserveIn + effectiveInput
  let nextOut := reserves.reserveOut - amountOut
  if reserves.soldIsA then (nextIn, nextOut) else (nextOut, nextIn)

/-- The account of a pool. -/
def poolVenueAccount (poolId : PoolId) : LedgerAccount := ⟨.venue ⟨poolId.value⟩, .venue⟩

/-- The fee account of a pool; no other component posts under this format. -/
def poolFeeAccount (poolId : PoolId) : LedgerAccount :=
  ⟨.address ("protocol-fee:" ++ poolId.value), .protocolFee⟩

/-- The postings of a fill. -/
def fillPostings (intent : SwapExactInIntent) (effectiveInput amountOut fee : Nat) :
    Except Fault (List Posting) := do
  let taken ← Posting.make ⟨.reserved intent.soldAssetId, .portfolioReserved⟩ intent.soldAssetId
    (-intent.amountInAtomic)
  let paidIn ← Posting.make (poolVenueAccount intent.poolId) intent.soldAssetId effectiveInput
  let paidOut ← Posting.make (poolVenueAccount intent.poolId) intent.boughtAssetId (-amountOut)
  let received ← Posting.make ⟨.available intent.boughtAssetId, .portfolioAvailable⟩
    intent.boughtAssetId amountOut
  let postings := [taken, paidIn, paidOut, received]
  if fee = 0 then .ok postings
  else do
    let feePosting ← Posting.make (poolFeeAccount intent.poolId) intent.soldAssetId fee
    .ok (postings ++ [feePosting])

namespace ConstantProductExecutionModel

/-- The fill of an order. -/
def fillOf (model : ConstantProductExecutionModel) (intent : SwapExactInIntent)
    (reserves : OrderedReserves) (boundaryOrdinal : Nat) : Fill where
  orderId := intent.orderId
  poolId := intent.poolId
  soldAssetId := intent.soldAssetId
  boughtAssetId := intent.boughtAssetId
  amountInAtomic := intent.amountInAtomic
  amountOutAtomic := model.amountOut reserves intent.amountInAtomic
  feeAmountAtomic := model.fee intent.amountInAtomic
  boundaryOrdinal := boundaryOrdinal

/-- The transition of a fill: none where the venue is not to change. -/
def transitionOf (model : ConstantProductExecutionModel) (intent : SwapExactInIntent)
    (reserves : OrderedReserves) (mode : ExecutionMode) : Option VenueTransition :=
  if mode = .exogenousReplay then none
  else
    let after := reserves.after (model.effectiveInput intent.amountInAtomic)
      (model.amountOut reserves intent.amountInAtomic)
    some ⟨intent.poolId, after.1, after.2⟩

/-- The body of `execute`. -/
def plan (model : ConstantProductExecutionModel) (intent : SwapExactInIntent)
    (venue : SimulationVenueState) (boundaryOrdinal : Nat) (mode : ExecutionMode) :
    Except ExecutionStop ExecutionPlan :=
  match venue.pool intent.poolId with
  | none => .error (.rejected "UNKNOWN_POOL")
  | some pool => do
    let reserves ← orderedReserves intent pool
    refuseIf (reserves.reserveIn = 0 ∨ reserves.reserveOut = 0) (.rejected "EMPTY_POOL")
    let amountOut := model.amountOut reserves intent.amountInAtomic
    refuseIf (amountOut = 0 ∨ reserves.reserveOut ≤ amountOut)
      (.rejected "OUTPUT_OUT_OF_BOUNDS")
    refuseIf (amountOut < intent.minimumAmountOutAtomic) (.rejected "MINIMUM_OUTPUT_NOT_MET")
    let fill ← failing (model.fillOf intent reserves boundaryOrdinal).checked
    let postings ← failing (fillPostings intent (model.effectiveInput intent.amountInAtomic)
      amountOut (model.fee intent.amountInAtomic))
    failing (ExecutionPlan.make (model.transitionOf intent reserves mode) [fill] postings
      ["FILLED"])

def execute (model : ConstantProductExecutionModel) (intent : SwapExactInIntent)
    (venue : SimulationVenueState) (boundaryOrdinal : Nat) (mode : ExecutionMode) :
    ExecutionOutcome :=
  match model.plan intent venue boundaryOrdinal mode with
  | .ok plan => .planned plan
  | .error (.rejected code) => .rejected code
  | .error (.failed fault) => .failed fault

/-- The model as the engine takes it. -/
def venueModel (model : ConstantProductExecutionModel) : VenueExecutionModel := ⟨model.execute⟩

end ConstantProductExecutionModel

/-! ## Reserves -/

theorem failing_eq_ok {α : Type} {x : Except Fault α} {a : α} :
    failing x = .ok a ↔ x = .ok a := by
  rw [failing, mapError_eq_ok]

/-- An order trades against both reserves of its pool, whichever side it is on. -/
theorem orderedReserves_eq_ok {intent : SwapExactInIntent} {pool : PoolSnapshot}
    {reserves : OrderedReserves} (h : orderedReserves intent pool = .ok reserves) :
    (intent.soldAssetId = pool.assetAId ∧ intent.boughtAssetId = pool.assetBId ∧
        reserves = ⟨pool.reserveAAtomic, pool.reserveBAtomic, true⟩) ∨
      (intent.soldAssetId = pool.assetBId ∧ intent.boughtAssetId = pool.assetAId ∧
        reserves = ⟨pool.reserveBAtomic, pool.reserveAAtomic, false⟩) := by
  rw [orderedReserves] at h
  split_ifs at h with hab hba
  · exact Or.inl ⟨hab.1, hab.2, (Except.ok.inj h).symm⟩
  · exact Or.inr ⟨hba.1, hba.2, (Except.ok.inj h).symm⟩

theorem product_orderedReserves {intent : SwapExactInIntent} {pool : PoolSnapshot}
    {reserves : OrderedReserves} (h : orderedReserves intent pool = .ok reserves) :
    reserves.reserveIn * reserves.reserveOut = pool.reserveAAtomic * pool.reserveBAtomic := by
  rcases orderedReserves_eq_ok h with ⟨-, -, rfl⟩ | ⟨-, -, rfl⟩
  · rfl
  · exact Nat.mul_comm _ _

theorem product_after (reserves : OrderedReserves) (effectiveInput amountOut : Nat) :
    (reserves.after effectiveInput amountOut).1 * (reserves.after effectiveInput amountOut).2
      = (reserves.reserveIn + effectiveInput) * (reserves.reserveOut - amountOut) := by
  rw [OrderedReserves.after]
  by_cases h : reserves.soldIsA = true
  · rw [if_pos h]
  · rw [if_neg h]
    exact Nat.mul_comm _ _

/-- The reserves an order sees depend on its two assets alone. -/
theorem orderedReserves_congr {intent intent' : SwapExactInIntent} (pool : PoolSnapshot)
    (hsold : intent'.soldAssetId = intent.soldAssetId)
    (hbought : intent'.boughtAssetId = intent.boughtAssetId) :
    orderedReserves intent' pool = orderedReserves intent pool := by
  rw [orderedReserves, orderedReserves, hsold, hbought]

namespace ConstantProductExecutionModel

variable (model : ConstantProductExecutionModel)

theorem fee_add_effectiveInput (amountIn : Nat) :
    model.fee amountIn + model.effectiveInput amountIn = amountIn :=
  ProductCurve.fee_add_net model.fee_lt.le amountIn

theorem effectiveInput_pos {amountIn : Nat} (h : 0 < amountIn) :
    0 < model.effectiveInput amountIn :=
  ProductCurve.net_pos model.fee_lt h

/-- The product of the reserves does not fall. -/
theorem product_le (reserves : OrderedReserves) (amountIn : Nat) :
    reserves.reserveIn * reserves.reserveOut
      ≤ (reserves.reserveIn + model.effectiveInput amountIn)
        * (reserves.reserveOut - model.amountOut reserves amountIn) :=
  ProductCurve.product_le _ _ _

/-- A larger input gives no less. -/
theorem amountOut_mono {reserves : OrderedReserves} (h : 0 < reserves.reserveIn) {x y : Nat}
    (hxy : x ≤ y) : model.amountOut reserves x ≤ model.amountOut reserves y :=
  ProductCurve.output_mono h _ (ProductCurve.net_mono model.fee_lt.le hxy)

end ConstantProductExecutionModel

/-! ## Postings -/

section Postings

variable {intent : SwapExactInIntent} {effectiveInput amountOut fee : Nat} {postings : List Posting}

/-- A sum over the postings of a fill; a fee of zero adds nothing. -/
theorem sum_fillPostings (h : fillPostings intent effectiveInput amountOut fee = .ok postings)
    (g : LedgerAccount → AssetId → Int → Int) (hzero : ∀ account asset, g account asset 0 = 0) :
    (postings.map fun p => g p.account p.assetId p.amountAtomic).sum
      = g ⟨.reserved intent.soldAssetId, .portfolioReserved⟩ intent.soldAssetId
          (-intent.amountInAtomic)
        + (g (poolVenueAccount intent.poolId) intent.soldAssetId effectiveInput
          + (g (poolVenueAccount intent.poolId) intent.boughtAssetId (-amountOut)
            + (g ⟨.available intent.boughtAssetId, .portfolioAvailable⟩ intent.boughtAssetId
                amountOut
              + g (poolFeeAccount intent.poolId) intent.soldAssetId fee))) := by
  rw [fillPostings] at h
  obtain ⟨taken, htaken, h⟩ := bind_eq_ok.mp h
  obtain ⟨paidIn, hpaidIn, h⟩ := bind_eq_ok.mp h
  obtain ⟨paidOut, hpaidOut, h⟩ := bind_eq_ok.mp h
  obtain ⟨received, hreceived, h⟩ := bind_eq_ok.mp h
  obtain ⟨h1, h2, h3⟩ := Posting.make_eq_ok htaken
  obtain ⟨h4, h5, h6⟩ := Posting.make_eq_ok hpaidIn
  obtain ⟨h7, h8, h9⟩ := Posting.make_eq_ok hpaidOut
  obtain ⟨h10, h11, h12⟩ := Posting.make_eq_ok hreceived
  by_cases hfee : fee = 0
  · rw [if_pos hfee] at h
    obtain rfl := Except.ok.inj h
    simp only [List.map_cons, List.map_nil, List.sum_cons, List.sum_nil, h1, h2, h3, h4, h5, h6,
      h7, h8, h9, h10, h11, h12, hfee, Nat.cast_zero, hzero]
  · rw [if_neg hfee] at h
    obtain ⟨feePosting, hposting, h⟩ := bind_eq_ok.mp h
    obtain rfl := Except.ok.inj h
    obtain ⟨h13, h14, h15⟩ := Posting.make_eq_ok hposting
    simp only [List.cons_append, List.nil_append, List.map_cons, List.map_nil, List.sum_cons,
      List.sum_nil, h1, h2, h3, h4, h5, h6, h7, h8, h9, h10, h11, h12, h13, h14, h15, add_zero]

/-- The postings of a fill conserve every asset. -/
theorem assetTotal_fillPostings
    (h : fillPostings intent effectiveInput amountOut fee = .ok postings)
    (hsplit : fee + effectiveInput = intent.amountInAtomic) (asset : AssetId) :
    assetTotal postings asset = 0 := by
  let g (_ : LedgerAccount) (assetId : AssetId) (amount : Int) : Int :=
    if assetId = asset then amount else 0
  have hsum : assetTotal postings asset = _ := sum_fillPostings h g fun _ _ => ite_self 0
  rw [hsum]
  dsimp only [g]
  split_ifs <;> omega

/-- The postings of a fill take what was reserved, and nothing else that is reserved. -/
theorem kindDelta_reserved_fillPostings
    (h : fillPostings intent effectiveInput amountOut fee = .ok postings) (asset : AssetId) :
    kindDelta postings .portfolioReserved asset
      = if intent.soldAssetId = asset then -(intent.amountInAtomic : Int) else 0 := by
  let g (account : LedgerAccount) (assetId : AssetId) (amount : Int) : Int :=
    if account.kind = .portfolioReserved ∧ assetId = asset then amount else 0
  have hsum : kindDelta postings .portfolioReserved asset = _ :=
    sum_fillPostings h g fun _ _ => ite_self 0
  rw [hsum]
  simp [g, poolVenueAccount, poolFeeAccount]

/-- The postings of a fill give the output, and take nothing that is available. -/
theorem kindDelta_available_fillPostings
    (h : fillPostings intent effectiveInput amountOut fee = .ok postings) (asset : AssetId) :
    kindDelta postings .portfolioAvailable asset
      = if intent.boughtAssetId = asset then (amountOut : Int) else 0 := by
  let g (account : LedgerAccount) (assetId : AssetId) (amount : Int) : Int :=
    if account.kind = .portfolioAvailable ∧ assetId = asset then amount else 0
  have hsum : kindDelta postings .portfolioAvailable asset = _ :=
    sum_fillPostings h g fun _ _ => ite_self 0
  rw [hsum]
  simp [g, poolVenueAccount, poolFeeAccount]

/-- The reserved account of the sold asset is drawn on for the whole input. -/
theorem delta_reserved_fillPostings
    (h : fillPostings intent effectiveInput amountOut fee = .ok postings) :
    delta postings (.reserved intent.soldAssetId) intent.soldAssetId
      = -(intent.amountInAtomic : Int) := by
  let g (account : LedgerAccount) (assetId : AssetId) (amount : Int) : Int :=
    if account.accountId = .reserved intent.soldAssetId ∧ assetId = intent.soldAssetId then amount
    else 0
  have hsum : delta postings (.reserved intent.soldAssetId) intent.soldAssetId = _ :=
    sum_fillPostings h g fun _ _ => ite_self 0
  rw [hsum]
  simp [g, poolVenueAccount, poolFeeAccount]

/-- The postings of a fill are made when its amounts are positive, and there are two at least. -/
theorem fillPostings_of_pos (hin : 0 < intent.amountInAtomic) (heffective : 0 < effectiveInput)
    (hout : 0 < amountOut) :
    ∃ postings, fillPostings intent effectiveInput amountOut fee = .ok postings ∧
      2 ≤ postings.length := by
  rw [fillPostings, Posting.make_of_ne _ _ (by omega), ok_bind, Posting.make_of_ne _ _ (by omega),
    ok_bind, Posting.make_of_ne _ _ (by omega), ok_bind, Posting.make_of_ne _ _ (by omega), ok_bind]
  by_cases hfee : fee = 0
  · rw [if_pos hfee]
    exact ⟨_, rfl, by simp⟩
  · rw [if_neg hfee, Posting.make_of_ne _ _ (by omega)]
    exact ⟨_, rfl, by simp⟩

end Postings

/-! ## Fills -/

section Fills

variable {model : ConstantProductExecutionModel} {intent : SwapExactInIntent}
  {venue : SimulationVenueState} {boundary : Nat} {mode : ExecutionMode} {plan : ExecutionPlan}

/-- The reserves an order is filled against, and that its output is one the venue allows. -/
structure Fillable (model : ConstantProductExecutionModel) (intent : SwapExactInIntent)
    (venue : SimulationVenueState) (pool : PoolSnapshot) (reserves : OrderedReserves) : Prop where
  pool_eq : venue.pool intent.poolId = some pool
  ordered : orderedReserves intent pool = .ok reserves
  in_pos : 0 < reserves.reserveIn
  out_pos : 0 < reserves.reserveOut
  amountOut_pos : 0 < model.amountOut reserves intent.amountInAtomic
  amountOut_lt : model.amountOut reserves intent.amountInAtomic < reserves.reserveOut
  minimum_le : intent.minimumAmountOutAtomic ≤ model.amountOut reserves intent.amountInAtomic

/-- What a plan is made of. -/
structure Filled (model : ConstantProductExecutionModel) (intent : SwapExactInIntent)
    (reserves : OrderedReserves) (boundary : Nat) (mode : ExecutionMode) (plan : ExecutionPlan) :
    Prop where
  transition : plan.transition = model.transitionOf intent reserves mode
  fills : plan.fills = [model.fillOf intent reserves boundary]
  postings : fillPostings intent (model.effectiveInput intent.amountInAtomic)
    (model.amountOut reserves intent.amountInAtomic) (model.fee intent.amountInAtomic)
      = .ok plan.ledgerPostings
  reports : plan.reports = ["FILLED"]

theorem ExecutionPlan.make_eq_ok {transition : Option VenueTransition} {fills : List Fill}
    {postings : List Posting} {reports : List String}
    (h : ExecutionPlan.make transition fills postings reports = .ok plan) :
    plan.transition = transition ∧ plan.fills = fills ∧ plan.ledgerPostings = postings ∧
      plan.reports = reports := by
  rw [ExecutionPlan.make] at h
  split_ifs at h
  cases h
  exact ⟨rfl, rfl, rfl, rfl⟩

/-- **A plan comes from the reserves of the pool**, past every check of the model. -/
theorem plan_eq_ok (h : model.plan intent venue boundary mode = .ok plan) :
    ∃ pool reserves, Fillable model intent venue pool reserves ∧
      Filled model intent reserves boundary mode plan := by
  rw [ConstantProductExecutionModel.plan] at h
  cases hpool : venue.pool intent.poolId with
  | none =>
    rw [hpool] at h
    cases h
  | some pool =>
    rw [hpool] at h
    obtain ⟨reserves, hreserves, h⟩ := bind_eq_ok.mp h
    obtain ⟨hempty, h⟩ := check_bind_eq_ok.mp h
    obtain ⟨hbounds, h⟩ := check_bind_eq_ok.mp h
    obtain ⟨hminimum, h⟩ := check_bind_eq_ok.mp h
    obtain ⟨fill, hfill, h⟩ := bind_eq_ok.mp h
    obtain ⟨postings, hpostings, h⟩ := bind_eq_ok.mp h
    rw [refuseIf_eq_ok, not_or] at hempty hbounds
    rw [refuseIf_eq_ok, not_lt] at hminimum
    obtain rfl := Fill.checked_eq_ok (failing_eq_ok.mp hfill)
    obtain ⟨htransition, hfills, hledger, hreports⟩ :=
      ExecutionPlan.make_eq_ok (failing_eq_ok.mp h)
    refine ⟨pool, reserves, ?_, ?_⟩
    · exact ⟨hpool, hreserves, Nat.pos_of_ne_zero hempty.1, Nat.pos_of_ne_zero hempty.2,
        Nat.pos_of_ne_zero hbounds.1, not_le.mp hbounds.2, hminimum⟩
    · exact ⟨htransition, hfills, hledger ▸ failing_eq_ok.mp hpostings, hreports⟩

theorem execute_eq_planned :
    model.execute intent venue boundary mode = .planned plan ↔
      model.plan intent venue boundary mode = .ok plan := by
  rw [ConstantProductExecutionModel.execute]
  cases model.plan intent venue boundary mode with
  | ok found => simp
  | error stop =>
    cases stop with
    | rejected code => simp
    | failed fault => simp

/-- The engine accepts a plan of the model. -/
theorem validateExecutionPlan_filled {reserves : OrderedReserves}
    (h : Filled model intent reserves boundary mode plan) :
    validateExecutionPlan intent plan boundary mode = .ok () := by
  have hmode : (plan.transition = none ↔ mode = .exogenousReplay) := by
    rw [h.transition, ConstantProductExecutionModel.transitionOf]
    split_ifs with hexogenous
    · exact iff_of_true rfl hexogenous
    · exact iff_of_false (by simp) hexogenous
  rw [validateExecutionPlan, h.fills]
  refine check_bind_eq_ok.mpr ⟨refuseIf_eq_ok.mpr ?_, check_bind_eq_ok.mpr
    ⟨refuseIf_eq_ok.mpr ?_, check_bind_eq_ok.mpr ⟨refuseIf_eq_ok.mpr ?_, check_bind_eq_ok.mpr
      ⟨refuseIf_eq_ok.mpr ?_, refuseIf_eq_ok.mpr ?_⟩⟩⟩⟩
  · simp [ConstantProductExecutionModel.fillOf]
  · simp [ConstantProductExecutionModel.fillOf]
  · simp [ConstantProductExecutionModel.fillOf]
  · exact fun hboth => hboth.2 (hmode.mpr hboth.1)
  · exact fun hboth => hboth.1 (hmode.mp hboth.2)

/-- The transition of a plan leaves the pool with no smaller product. -/
theorem product_le_transition {pool : PoolSnapshot} {reserves : OrderedReserves}
    (hordered : orderedReserves intent pool = .ok reserves)
    (h : Filled model intent reserves boundary mode plan) {transition : VenueTransition}
    (htransition : plan.transition = some transition) :
    transition.poolId = intent.poolId ∧
      pool.reserveAAtomic * pool.reserveBAtomic
        ≤ transition.reserveAAfterAtomic * transition.reserveBAfterAtomic := by
  rw [h.transition, ConstantProductExecutionModel.transitionOf] at htransition
  split_ifs at htransition
  obtain rfl := Option.some.inj htransition
  refine ⟨rfl, ?_⟩
  rw [← product_orderedReserves hordered, product_after]
  exact model.product_le reserves intent.amountInAtomic

/-- An order that is fillable is filled: nothing else stops it. -/
theorem exists_plan_of_fillable {pool : PoolSnapshot} {reserves : OrderedReserves}
    (h : Fillable model intent venue pool reserves) (boundary : Nat) (mode : ExecutionMode) :
    ∃ plan, model.execute intent venue boundary mode = .planned plan := by
  have hfill : (model.fillOf intent reserves boundary).checked
      = .ok (model.fillOf intent reserves boundary) := by
    have hfee : model.fee intent.amountInAtomic ≤ intent.amountInAtomic :=
      ProductCurve.fee_le model.fee_lt.le _
    refine check_bind_eq_ok.mpr ⟨refuseIf_eq_ok.mpr intent.assets_ne, check_bind_eq_ok.mpr
      ⟨refuseIf_eq_ok.mpr ?_, check_bind_eq_ok.mpr ⟨refuseIf_eq_ok.mpr (not_lt.mpr hfee), rfl⟩⟩⟩
    exact not_or.mpr ⟨intent.amount_pos.ne', h.amountOut_pos.ne'⟩
  obtain ⟨postings, hpostings, htwo⟩ := fillPostings_of_pos intent.amount_pos
    (model.effectiveInput_pos intent.amount_pos) h.amountOut_pos
  have hplan : ∃ plan, ExecutionPlan.make (model.transitionOf intent reserves mode)
      [model.fillOf intent reserves boundary] postings ["FILLED"] = .ok plan := by
    rw [ExecutionPlan.make, dif_pos (by simp), dif_pos (by simp), dif_pos htwo]
    exact ⟨_, rfl⟩
  obtain ⟨plan, hplan⟩ := hplan
  refine ⟨plan, execute_eq_planned.mpr ?_⟩
  rw [ConstantProductExecutionModel.plan, h.pool_eq]
  dsimp only
  rw [h.ordered, ok_bind, refuseIf_of_not (not_or.mpr ⟨h.in_pos.ne', h.out_pos.ne'⟩), ok_bind,
    refuseIf_of_not (not_or.mpr ⟨h.amountOut_pos.ne', not_le.mpr h.amountOut_lt⟩), ok_bind,
    refuseIf_of_not (not_lt.mpr h.minimum_le), ok_bind, failing_eq_ok.mpr hfill, ok_bind,
    failing_eq_ok.mpr hpostings, ok_bind, failing_eq_ok.mpr hplan]

/-- The engine can settle a plan of the model. -/
theorem settlementTransaction_filled [DomainDigest] {reserves : OrderedReserves}
    (h : Filled model intent reserves boundary mode plan) :
    ∃ settlement, settlementTransaction intent plan.ledgerPostings boundary = .ok settlement ∧
      settlement.postings = plan.ledgerPostings := by
  have hbalance : ∀ p ∈ plan.ledgerPostings, assetTotal plan.ledgerPostings p.assetId = 0 :=
    fun p _ => assetTotal_fillPostings h.postings (model.fee_add_effectiveInput _) p.assetId
  rw [settlementTransaction, LedgerTransaction.make, dif_pos (by decide), dif_pos plan.two_le,
    dif_pos hbalance]
  exact ⟨_, rfl, rfl⟩

end Fills

/-- **Constant-product execution.**  Whenever an order is filled, the output is positive and below
the reserve it comes from, the product of the reserves does not fall, a larger order for the same
assets gives no less, the postings conserve every asset and take what was reserved and nothing else
that is reserved or available, and the engine accepts the plan. -/
theorem constant_product_fills (model : ConstantProductExecutionModel)
    (intent : SwapExactInIntent) (venue : SimulationVenueState) (boundary : Nat)
    (mode : ExecutionMode) {plan : ExecutionPlan}
    (h : model.execute intent venue boundary mode = .planned plan) :
    ∃ pool reserves fill, venue.pool intent.poolId = some pool ∧
      orderedReserves intent pool = .ok reserves ∧ plan.fills = [fill] ∧
      fill.amountInAtomic = intent.amountInAtomic ∧
      0 < fill.amountOutAtomic ∧ fill.amountOutAtomic < reserves.reserveOut ∧
      reserves.reserveIn * reserves.reserveOut
        ≤ (reserves.reserveIn + (intent.amountInAtomic - fill.feeAmountAtomic))
          * (reserves.reserveOut - fill.amountOutAtomic) ∧
      (∀ transition, plan.transition = some transition → transition.poolId = intent.poolId ∧
        pool.reserveAAtomic * pool.reserveBAtomic
          ≤ transition.reserveAAfterAtomic * transition.reserveBAfterAtomic) ∧
      (∀ (larger : SwapExactInIntent) (boundary' : Nat) (mode' : ExecutionMode)
          (plan' : ExecutionPlan), larger.poolId = intent.poolId →
        larger.soldAssetId = intent.soldAssetId → larger.boughtAssetId = intent.boughtAssetId →
        intent.amountInAtomic ≤ larger.amountInAtomic →
        model.execute larger venue boundary' mode' = .planned plan' →
        ∀ fill' ∈ plan'.fills, fill.amountOutAtomic ≤ fill'.amountOutAtomic) ∧
      (∀ asset, assetTotal plan.ledgerPostings asset = 0) ∧
      delta plan.ledgerPostings (.reserved intent.soldAssetId) intent.soldAssetId
        = -(intent.amountInAtomic : Int) ∧
      (∀ asset, kindDelta plan.ledgerPostings .portfolioReserved asset
        = if intent.soldAssetId = asset then -(intent.amountInAtomic : Int) else 0) ∧
      (∀ asset, kindDelta plan.ledgerPostings .portfolioAvailable asset
        = if intent.boughtAssetId = asset then (fill.amountOutAtomic : Int) else 0) ∧
      validateExecutionPlan intent plan boundary mode = .ok () := by
  obtain ⟨pool, reserves, hfillable, hfilled⟩ := plan_eq_ok (execute_eq_planned.mp h)
  refine ⟨pool, reserves, model.fillOf intent reserves boundary, hfillable.pool_eq,
    hfillable.ordered, hfilled.fills, rfl, hfillable.amountOut_pos, hfillable.amountOut_lt,
    model.product_le reserves intent.amountInAtomic,
    fun _ => product_le_transition hfillable.ordered hfilled, ?_,
    assetTotal_fillPostings hfilled.postings (model.fee_add_effectiveInput _),
    delta_reserved_fillPostings hfilled.postings,
    kindDelta_reserved_fillPostings hfilled.postings,
    kindDelta_available_fillPostings hfilled.postings, validateExecutionPlan_filled hfilled⟩
  intro larger boundary' mode' plan' hpool hsold hbought hle hlarger fill' hfill'
  obtain ⟨pool', reserves', hfillable', hfilled'⟩ := plan_eq_ok (execute_eq_planned.mp hlarger)
  obtain rfl : pool' = pool := by
    have hfound := hfillable'.pool_eq
    rw [hpool, hfillable.pool_eq] at hfound
    exact (Option.some.inj hfound).symm
  obtain rfl : reserves' = reserves := by
    have hordered := hfillable'.ordered
    rw [orderedReserves_congr pool' hsold hbought, hfillable.ordered] at hordered
    exact (Except.ok.inj hordered).symm
  rw [hfilled'.fills, List.mem_singleton] at hfill'
  rw [hfill']
  exact model.amountOut_mono hfillable.in_pos hle

/-- A fifth of the input reserve sold to a pool of a thousand of each asset. -/
def sampleOrder : SwapExactInIntent where
  orderId := { hex := 1 }
  poolId := ⟨"pool"⟩
  soldAssetId := ⟨"sol"⟩
  boughtAssetId := ⟨"token"⟩
  amountInAtomic := 200
  minimumAmountOutAtomic := 150
  createdBoundaryOrdinal := 0
  assets_ne := by decide
  amount_pos := by decide

def samplePool : PoolSnapshot := ⟨⟨"pool"⟩, ⟨"token"⟩, ⟨"sol"⟩, 1000, 1000, 0, by decide⟩

def samplePoolVenue : SimulationVenueState where
  mode := .shadowStateReplay
  pools := Dict.empty.set ⟨"pool"⟩ samplePool

def sampleFeeModel : ConstantProductExecutionModel := ⟨100, by decide⟩

theorem constant_product_fills_sample :
    ∃ plan, sampleFeeModel.execute sampleOrder samplePoolVenue 7 .shadowStateReplay
        = .planned plan ∧
      (∃ pool reserves fill, samplePoolVenue.pool ⟨"pool"⟩ = some pool ∧
        orderedReserves sampleOrder pool = .ok reserves ∧ plan.fills = [fill] ∧
        0 < fill.amountOutAtomic ∧ fill.amountOutAtomic < reserves.reserveOut) ∧
      validateExecutionPlan sampleOrder plan 7 .shadowStateReplay = .ok () := by
  have hplanned : ∃ plan, sampleFeeModel.execute sampleOrder samplePoolVenue 7 .shadowStateReplay
      = .planned plan := ⟨_, rfl⟩
  obtain ⟨plan, h⟩ := hplanned
  obtain ⟨pool, reserves, fill, hpool, hordered, hfills, -, hpos, hlt, -, -, -, -, -, -, -, hvalid⟩ :=
    constant_product_fills sampleFeeModel sampleOrder samplePoolVenue 7 .shadowStateReplay h
  exact ⟨plan, h, ⟨pool, reserves, fill, hpool, hordered, hfills, hpos, hlt⟩, hvalid⟩

end Reference

end OnchainBacktest
