import OnchainBacktest.Engine.WalletAccounts

/-!
# What becomes of an account reservation

The reducer of `WalletAccounts` checks every record and every state it builds.  Here those checks
are shown to pass: a plan that *fits* the wallet (`AccountReservationPlan.Fits`) gives valid
records whichever way its order ends, and each outcome is written out.

A plan keeps fitting while other orders land, since the accumulator is only ever created.
-/

set_option autoImplicit false

namespace OnchainBacktest

open Checked

/-! ## Valid wallets -/

instance : Std.Total fun a b : OpenMintAccount => openMintAccountLe a b = true :=
  ⟨fun a b => by simpa [openMintAccountLe] using le_total _ _⟩

instance : IsTrans OpenMintAccount fun a b => openMintAccountLe a b = true :=
  ⟨fun a b c hab hbc => by
    simp only [openMintAccountLe, decide_eq_true_eq] at hab hbc ⊢
    exact hab.trans hbc⟩

/-- The checks of the wallet's constructor. -/
structure WalletProvisioningState.Valid (s : WalletProvisioningState) : Prop where
  schema_stable : stableName s.uvaSchemaId = true
  no_creator : s.initialUvaState = .prewarmed → s.uvaCreatedByRoundtripId = none
  sorted : s.openMintAccounts.Pairwise fun a b => openMintAccountLe a b = true
  mints_nodup : (s.openMintAccounts.map Prod.fst).Nodup

theorem WalletProvisioningState.checked_iff {s s' : WalletProvisioningState} :
    s.checked = .ok s' ↔ s.Valid ∧ s = s' := by
  simp only [checked, bind_eq_ok, refuseIf_eq_ok, exists_const, not_not, Bool.not_eq_false,
    Except.ok.injEq, not_and, ne_eq]
  constructor
  · rintro ⟨h1, h2, h3, h4, h5⟩
    exact ⟨⟨h1, h2, h3, h4⟩, h5⟩
  · rintro ⟨⟨h1, h2, h3, h4⟩, h5⟩
    exact ⟨h1, h2, h3, h4, h5⟩

theorem WalletProvisioningState.Valid.checked {s : WalletProvisioningState} (h : s.Valid) :
    s.checked = .ok s := checked_iff.mpr ⟨h, rfl⟩

theorem initialWalletProvisioningState_eq_ok {initial : WalletUvaInitialState} {schema : String}
    {s : WalletProvisioningState} (h : initialWalletProvisioningState initial schema = .ok s) :
    s.Valid ∧ s = ⟨initial, schema, none, []⟩ := by
  obtain ⟨hv, rfl⟩ := WalletProvisioningState.checked_iff.mp h
  exact ⟨hv, rfl⟩

/-- The accumulator is there from the start or some round trip has created it. -/
theorem WalletProvisioningState.uvaExists_iff {s : WalletProvisioningState} :
    s.uvaExists = true ↔ s.initialUvaState = .prewarmed ∨ s.uvaCreatedByRoundtripId ≠ none := by
  simp [uvaExists, Option.isSome_iff_ne_none]

theorem mintOpen_eq_false {s : WalletProvisioningState} {mint : AssetId} :
    s.mintOpen mint = false ↔ mint ∉ s.openMintAccounts.map Prod.fst := by
  rw [WalletProvisioningState.mintOpen, List.any_eq_false, List.mem_map]
  refine ⟨fun h ⟨a, ha, he⟩ => h a ha (by simp [he]), fun h a ha he => h ⟨a, ha, ?_⟩⟩
  simpa using he

/-! ## Plans that fit -/

/-- The mint component and the wallet component of a plan. -/
structure AccountReservationPlan.Parts (plan : AccountReservationPlan)
    (m w : AccountReservationComponent) : Prop where
  components : plan.components = [m, w]
  mint : m.scope = .mint
  wallet : w.scope = .wallet

/-- A plan fits the wallet: its mint deposit is reserved, and its accumulator deposit unless the
accumulator exists. -/
structure AccountReservationPlan.Fits (plan : AccountReservationPlan)
    (m w : AccountReservationComponent) (state : WalletProvisioningState) : Prop
    extends plan.Parts m w where
  mint_full : m.maximumReservedAtomic = m.priced.maximumDepositAtomic
  wallet_full : w.maximumReservedAtomic = 0 ∨
    w.maximumReservedAtomic = w.priced.maximumDepositAtomic
  exists_of_zero : w.maximumReservedAtomic = 0 → state.uvaExists = true
  zero_of_prewarmed : state.initialUvaState = .prewarmed → w.maximumReservedAtomic = 0

section Plans

variable {plan : AccountReservationPlan} {m w : AccountReservationComponent}
  {state state' : WalletProvisioningState}

theorem AccountReservationPlan.Fits.mint_pos (h : plan.Fits m w state) :
    0 < m.maximumReservedAtomic := h.mint_full ▸ m.priced.deposit_pos

/-- **A prepared plan fits the wallet it was prepared for.** -/
theorem prepareAccountReservation_eq_ok {rid : ContentDigest} {mint : AssetId}
    {priced : List PricedAccountRequirement}
    (h : prepareAccountReservation state rid mint priced = .ok plan) :
    plan.roundtripId = rid ∧ plan.mintAssetId = mint ∧ state.mintOpen mint = false ∧
      ∃ m w, plan.Fits m w state ∧ (state.uvaExists = true → w.maximumReservedAtomic = 0) := by
  simp only [prepareAccountReservation, bind_eq_ok, refuseIf_eq_ok, exists_const, ne_eq,
    not_not, Bool.not_eq_true] at h
  obtain ⟨_, hopen, hlen, _, hmake⟩ := h
  obtain ⟨h1, h2, h3⟩ := AccountReservationPlan.make_eq_ok hmake
  obtain ⟨m, w, hc, hm, hw⟩ := plan.components_eq
  have hmem : ∀ c ∈ plan.components, c.maximumReservedAtomic =
      if c.scope = .wallet ∧ state.uvaExists = true then 0
        else c.priced.maximumDepositAtomic := by
    intro c hcm
    rw [h3, List.mem_insertionSort, List.mem_map] at hcm
    obtain ⟨p, _, rfl⟩ := hcm
    split
    · rename_i hcond
      exact (if_pos hcond).symm
    · rename_i hcond
      exact (if_neg hcond).symm
  have hmm := hmem m (by simp [hc])
  have hww := hmem w (by simp [hc])
  rw [hm, if_neg (by simp)] at hmm
  have hpos := w.priced.deposit_pos
  refine ⟨h1, h2, hopen, m, w, ⟨⟨hc, hm, hw⟩, hmm, ?_, ?_, ?_⟩, ?_⟩
  · rw [hww]
    split
    · exact .inl rfl
    · exact .inr rfl
  · intro hz
    rw [hww] at hz
    split at hz
    · rename_i hcond
      exact hcond.2
    · omega
  · intro hp
    rw [hww, if_pos ⟨hw, WalletProvisioningState.uvaExists_iff.mpr (.inl hp)⟩]
  · intro he
    rw [hww, if_pos ⟨hw, he⟩]

/-! ## Records of an order -/

/-- A component record is valid as soon as its amounts fit its lifecycle. -/
theorem checked_componentRecord {c : AccountReservationComponent} {rid : ContentDigest}
    {lifecycle : AccountComponentLifecycle} {paid released : Nat}
    (hle : paid + released ≤ c.maximumReservedAtomic)
    (hl : (componentRecord c rid lifecycle paid released).AmountsFit) :
    (componentRecord c rid lifecycle paid released).checked
      = .ok (componentRecord c rid lifecycle paid released) := by
  refine AccountComponentRecord.checked_eq_ok.mpr
    ⟨AccountComponentRecord.postInit_eq_ok.mpr ⟨c.priced.requirement.schema_stable,
      c.priced.requirement.policy_eq, ?_, hle, ?_, ?_, hl⟩, rfl⟩
  · exact c.within.trans c.priced.deposit_le
  · simp [componentRecord]
  · simp [componentRecord]

/-- How the wallet account already exists, said of the wallet alone. -/
theorem existingWalletLifecycle_wallet (hw : w.scope = .wallet) :
    existingWalletLifecycle state w.priced =
      if state.initialUvaState = .prewarmed then some .prewarmed
      else if state.uvaCreatedByRoundtripId ≠ none then some .existingRunLocked else none := by
  rw [AccountReservationComponent.scope] at hw
  rw [existingWalletLifecycle, if_neg (by simp [hw])]

theorem existingWalletLifecycle_mint (hm : m.scope = .mint) :
    existingWalletLifecycle state m.priced = none := by
  rw [AccountReservationComponent.scope] at hm
  rw [existingWalletLifecycle, if_pos (by simp [hm])]

/-- The wallet record of a buy that was not submitted. -/
def unsubmittedWalletRecord (state : WalletProvisioningState) (w : AccountReservationComponent)
    (rid : ContentDigest) : AccountComponentRecord :=
  componentRecord w rid ((existingWalletLifecycle state w.priced).getD .notCreated) 0 0

/-- The wallet record of a buy that landed without a fill. -/
def releasedWalletRecord (state : WalletProvisioningState) (w : AccountReservationComponent)
    (rid : ContentDigest) : AccountComponentRecord :=
  componentRecord w rid ((existingWalletLifecycle state w.priced).getD .reservationReleased) 0
    w.maximumReservedAtomic

/-- The wallet record of a buy that landed: it pays only when the account does not exist. -/
def landedWalletRecord (state : WalletProvisioningState) (w : AccountReservationComponent)
    (rid : ContentDigest) : AccountComponentRecord :=
  match existingWalletLifecycle state w.priced with
  | some existing => componentRecord w rid existing 0 w.maximumReservedAtomic
  | none => componentRecord w rid .createdLocked w.maximumReservedAtomic 0

/-- The wallet with the mint account of a plan opened. -/
def openedMint (state : WalletProvisioningState) (plan : AccountReservationPlan)
    (m : AccountReservationComponent) : WalletProvisioningState :=
  { state with
    openMintAccounts :=
      (state.openMintAccounts ++ [(plan.mintAssetId, m.priced.requirement.requirementSchemaId,
        plan.roundtripId)]).insertionSort fun a b => openMintAccountLe a b = true }

/-- The wallet after a buy that landed. -/
def landedWalletState (state : WalletProvisioningState) (plan : AccountReservationPlan)
    (m w : AccountReservationComponent) : WalletProvisioningState :=
  { openedMint state plan m with
    uvaCreatedByRoundtripId :=
      if (existingWalletLifecycle state w.priced).isSome then state.uvaCreatedByRoundtripId
      else some plan.roundtripId }

theorem landedWalletState_uvaCreatedBy (hw : w.scope = .wallet) :
    (landedWalletState state plan m w).uvaCreatedByRoundtripId =
      if state.uvaExists = true then state.uvaCreatedByRoundtripId else some plan.roundtripId := by
  rw [landedWalletState, existingWalletLifecycle_wallet hw]
  cases hi : state.initialUvaState <;> cases hu : state.uvaCreatedByRoundtripId <;>
    simp [WalletProvisioningState.uvaExists, hi, hu]

theorem landedWalletRecord_eq (hw : w.scope = .wallet) (rid : ContentDigest) :
    landedWalletRecord state w rid =
      if state.uvaExists = true then
        componentRecord w rid ((existingWalletLifecycle state w.priced).getD .prewarmed) 0
          w.maximumReservedAtomic
      else componentRecord w rid .createdLocked w.maximumReservedAtomic 0 := by
  rw [landedWalletRecord, existingWalletLifecycle_wallet hw]
  cases hi : state.initialUvaState <;> cases hu : state.uvaCreatedByRoundtripId <;>
    simp [WalletProvisioningState.uvaExists, hi, hu]

variable {rid : ContentDigest}

/-- A record of an existing accumulator is valid: a prewarmed one reserved nothing, another one
releases what it reserved. -/
theorem checked_existing (h : plan.Fits m w state) {existing : AccountComponentLifecycle}
    (he : existingWalletLifecycle state w.priced = some existing) :
    (componentRecord w rid existing 0 w.maximumReservedAtomic).checked
      = .ok (componentRecord w rid existing 0 w.maximumReservedAtomic) := by
  refine checked_componentRecord (by omega) ?_
  rw [existingWalletLifecycle_wallet h.wallet] at he
  split at he
  · rename_i hp
    rw [← Option.some.inj he, h.zero_of_prewarmed hp]
    simp [AccountComponentRecord.AmountsFit, componentRecord,
      h.zero_of_prewarmed hp]
  · split at he
    · rw [← Option.some.inj he]
      simp [AccountComponentRecord.AmountsFit, componentRecord]
    · cases he

/-- There is a lifecycle to give exactly when the account exists. -/
theorem existingWalletLifecycle_eq_none (hw : w.scope = .wallet) :
    existingWalletLifecycle state w.priced = none ↔ ¬ state.uvaExists = true := by
  rw [existingWalletLifecycle_wallet hw, WalletProvisioningState.uvaExists_iff]
  by_cases hp : state.initialUvaState = .prewarmed
  · simp [hp]
  · by_cases hu : state.uvaCreatedByRoundtripId = none
    · simp [hp, hu]
    · simp [hp, hu]

theorem checked_unsubmitted (h : plan.Fits m w state)
    (hz : state.uvaExists = true → w.maximumReservedAtomic = 0) :
    (unsubmittedWalletRecord state w rid).checked = .ok (unsubmittedWalletRecord state w rid) := by
  refine checked_componentRecord (by omega) ?_
  cases he : existingWalletLifecycle state w.priced with
  | none => simp [AccountComponentRecord.AmountsFit, componentRecord]
  | some existing =>
    have hex : state.uvaExists = true := by
      by_contra hno
      rw [(existingWalletLifecycle_eq_none h.wallet).mpr hno] at he
      cases he
    have h1 : (componentRecord w rid existing 0 w.maximumReservedAtomic).checked
        = .ok (componentRecord w rid existing 0 w.maximumReservedAtomic) := checked_existing h he
    rw [hz hex] at h1
    obtain ⟨_, _, _, _, _, _, hfit⟩ := AccountComponentRecord.postInit_eq_ok.mp
      (AccountComponentRecord.checked_eq_ok.mp h1).1
    exact hfit

theorem checked_released (h : plan.Fits m w state) :
    (releasedWalletRecord state w rid).checked = .ok (releasedWalletRecord state w rid) := by
  rw [releasedWalletRecord]
  cases he : existingWalletLifecycle state w.priced with
  | none =>
    exact checked_componentRecord (by omega)
      (by simp [AccountComponentRecord.AmountsFit, componentRecord])
  | some existing => exact checked_existing h he

/-- **The records of an order that is not submitted are always valid.** -/
theorem unsubmittedAccountRecords_eq (h : plan.Fits m w state)
    (hz : state.uvaExists = true → w.maximumReservedAtomic = 0) :
    unsubmittedAccountRecords state plan = .ok
      [componentRecord m plan.roundtripId .notCreated 0 0,
        unsubmittedWalletRecord state w plan.roundtripId] := by
  have hm : (componentRecord m plan.roundtripId .notCreated 0 0).checked
      = .ok (componentRecord m plan.roundtripId .notCreated 0 0) :=
    checked_componentRecord (by omega)
      (by simp [AccountComponentRecord.AmountsFit, componentRecord])
  have hw := @checked_unsubmitted plan m w state plan.roundtripId h hz
  rw [unsubmittedAccountRecords, h.components]
  simp only [List.mapM_cons, List.mapM_nil, existingWalletLifecycle_mint h.mint,
    Option.getD_none, hm, ok_bind]
  rw [unsubmittedWalletRecord] at hw ⊢
  rw [hw]
  rfl

/-- **The records of a buy that landed without a fill are always valid.** -/
theorem applyBuyAccountTransition_failed (h : plan.Fits m w state)
    (hopen : state.mintOpen plan.mintAssetId = false) :
    applyBuyAccountTransition state plan false = .ok ⟨state,
      [componentRecord m plan.roundtripId .reservationReleased 0 m.maximumReservedAtomic,
        releasedWalletRecord state w plan.roundtripId]⟩ := by
  have hm : (componentRecord m plan.roundtripId .reservationReleased 0
        m.maximumReservedAtomic).checked
      = .ok (componentRecord m plan.roundtripId .reservationReleased 0 m.maximumReservedAtomic) :=
    checked_componentRecord (by omega)
      (by simp [AccountComponentRecord.AmountsFit, componentRecord])
  have hw := @checked_released plan m w state plan.roundtripId h
  rw [applyBuyAccountTransition, refuseIf_of_not (by simp [hopen]), h.components]
  simp only [ok_bind, Bool.false_eq_true, if_false, List.mapM_cons, List.mapM_nil,
    existingWalletLifecycle_mint h.mint, Option.getD_none, hm]
  rw [releasedWalletRecord] at hw ⊢
  rw [hw]
  rfl

theorem openedMint_valid (hs : state.Valid) (hopen : state.mintOpen plan.mintAssetId = false) :
    (openedMint state plan m).Valid := by
  refine ⟨hs.schema_stable, hs.no_creator, List.pairwise_insertionSort _ _, ?_⟩
  refine (((List.perm_insertionSort _ _).map Prod.fst).nodup_iff).mpr ?_
  rw [List.map_append]
  refine List.nodup_append.mpr ⟨hs.mints_nodup, by simp, ?_⟩
  intro a ha b hb hab
  rw [List.map_singleton, List.mem_singleton] at hb
  rw [hab, hb] at ha
  exact mintOpen_eq_false.mp hopen ha

/-- A deposit that is locked is paid in full. -/
theorem checked_createdLocked {c : AccountReservationComponent}
    (hpos : 0 < c.maximumReservedAtomic) :
    (componentRecord c rid .createdLocked c.maximumReservedAtomic 0).checked
      = .ok (componentRecord c rid .createdLocked c.maximumReservedAtomic 0) := by
  exact checked_componentRecord (by omega) ⟨Nat.ne_of_gt hpos, rfl, rfl, rfl⟩

theorem applyBuyComponent_mint (h : plan.Fits m w state) (hs : state.Valid)
    (hopen : state.mintOpen plan.mintAssetId = false) :
    applyBuyComponent plan (state, []) m = .ok (openedMint state plan m,
      [componentRecord m plan.roundtripId .createdLocked m.maximumReservedAtomic 0]) := by
  have hv := (openedMint_valid (m := m) hs hopen).checked
  rw [openedMint] at hv
  rw [applyBuyComponent, if_pos (show m.priced.requirement.scope = .mint from h.mint)]
  simp only [hv, checked_createdLocked h.mint_pos, ok_bind, List.nil_append]
  rfl

/-- What a plan reserves nothing for exists already. -/
theorem AccountReservationPlan.Fits.reserved_pos (h : plan.Fits m w state)
    (he : ¬ state.uvaExists = true) : 0 < w.maximumReservedAtomic :=
  Nat.pos_of_ne_zero fun hz => he (h.exists_of_zero hz)

theorem landedWalletState_valid (h : plan.Fits m w state) (hs : state.Valid)
    (hopen : state.mintOpen plan.mintAssetId = false) :
    (landedWalletState state plan m w).Valid := by
  have hv := openedMint_valid (m := m) hs hopen
  refine ⟨hs.schema_stable, fun hp => ?_, hv.sorted, hv.mints_nodup⟩
  have hp' : state.initialUvaState = .prewarmed := hp
  rw [landedWalletState_uvaCreatedBy h.wallet,
    if_pos (WalletProvisioningState.uvaExists_iff.mpr (.inl hp'))]
  exact hs.no_creator hp'

theorem applyBuyComponent_wallet (h : plan.Fits m w state) (hs : state.Valid)
    (hopen : state.mintOpen plan.mintAssetId = false) (records : List AccountComponentRecord) :
    applyBuyComponent plan (openedMint state plan m, records) w
      = .ok (landedWalletState state plan m w,
        records ++ [landedWalletRecord state w plan.roundtripId]) := by
  have hw : w.priced.requirement.scope ≠ .mint := by
    have h1 := h.wallet
    rw [AccountReservationComponent.scope] at h1
    simp [h1]
  have hv := openedMint_valid (m := m) hs hopen
  have hsame : existingWalletLifecycle (openedMint state plan m) w.priced
      = existingWalletLifecycle state w.priced := rfl
  rw [applyBuyComponent, if_neg hw, landedWalletState, landedWalletRecord]
  simp only [hsame]
  cases he : existingWalletLifecycle state w.priced with
  | some existing =>
    simp only [checked_existing h he, ok_bind, Option.isSome_some, if_true]
    rfl
  | none =>
    have hpos := h.reserved_pos ((existingWalletLifecycle_eq_none h.wallet).mp he)
    have hwv := landedWalletState_valid h hs hopen
    rw [landedWalletState] at hwv
    simp only [he, Option.isSome_none, Bool.false_eq_true, if_false] at hwv
    simp only [hwv.checked, checked_createdLocked hpos, ok_bind, Option.isSome_none,
      Bool.false_eq_true, if_false]

/-- **A buy that lands creates its mint account, and the accumulator exactly when it does not
exist; its records are always valid.** -/
theorem applyBuyAccountTransition_landed (h : plan.Fits m w state) (hs : state.Valid)
    (hopen : state.mintOpen plan.mintAssetId = false) :
    applyBuyAccountTransition state plan true = .ok ⟨landedWalletState state plan m w,
      [componentRecord m plan.roundtripId .createdLocked m.maximumReservedAtomic 0,
        landedWalletRecord state w plan.roundtripId]⟩ := by
  rw [applyBuyAccountTransition, refuseIf_of_not (by simp [hopen]), h.components]
  simp only [ok_bind, if_true, List.foldlM_cons, List.foldlM_nil,
    applyBuyComponent_mint h hs hopen, applyBuyComponent_wallet h hs hopen]
  rfl

/-! ## Closing a mint account -/

/-- The mint record of a sell that landed. -/
def closedMintRecord (record : AccountComponentRecord) : AccountComponentRecord :=
  { record with
    refundedAtomic := record.paidAtomic
    lockedDeltaAtomic := 0
    lifecycle := .closedRefunded }

/-- The wallet after a sell that landed. -/
def closedWalletState (state : WalletProvisioningState) (mint : AssetId) :
    WalletProvisioningState :=
  { state with openMintAccounts := state.openMintAccounts.filter fun item => item.1 != mint }

/-- What a sell that lands gives, when it is not refused. -/
theorem applySellAccountTransition_eq_ok {mint : AssetId} {opened wallet : AccountComponentRecord}
    (hm : opened.scope = .mint) (hw : wallet.scope = .wallet)
    {transition : AccountProvisioningTransition}
    (h : applySellAccountTransition state rid mint [opened, wallet] true = .ok transition) :
    transition.state = closedWalletState state mint ∧ transition.state.Valid ∧
      transition.records = [closedMintRecord opened, wallet] := by
  rw [applySellAccountTransition, if_pos rfl] at h
  obtain ⟨_, h⟩ := check_bind_eq_ok.mp h
  obtain ⟨updated, hupdated, h⟩ := bind_eq_ok.mp h
  obtain ⟨next, hnext, h⟩ := bind_eq_ok.mp h
  cases h
  obtain ⟨hvalid, rfl⟩ := WalletProvisioningState.checked_iff.mp hnext
  refine ⟨rfl, hvalid, ?_⟩
  simp only [List.mapM_cons, List.mapM_nil, bind_eq_ok] at hupdated
  obtain ⟨r1, hr1, rest, ⟨r2, hr2, _, hnil, hrest⟩, hupdated⟩ := hupdated
  rw [closeRecord, if_pos hm] at hr1
  obtain ⟨_, hr1⟩ := check_bind_eq_ok.mp hr1
  rw [closeRecord, if_neg (by simp [hw])] at hr2
  cases hnil
  cases hr2
  cases hrest
  cases hupdated
  rw [← (AccountComponentRecord.checked_eq_ok.mp hr1).2]
  rfl

end Plans

end OnchainBacktest
