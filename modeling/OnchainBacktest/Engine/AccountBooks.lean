import OnchainBacktest.Engine.Solvency

/-!
# The account records of a round trip

Every account record a round trip carries passes its own checks (`Lawful.component_valid`), and the
deposits a round trip holds are the locked deltas of its records (`Lawful.locked_eq`).
-/

set_option autoImplicit false

namespace OnchainBacktest

open Checked

section Records

variable [DomainDigest] {setup : SnipingSetup} {rid : ContentDigest} {s : RoundTripState}

/-! ## Valid records -/

omit [DomainDigest] in
theorem valid_of_checked {r : AccountComponentRecord} (h : r.checked = .ok r) :
    r.postInit = .ok () := (AccountComponentRecord.checked_eq_ok.mp h).1

theorem PricedBuy.notCreated_valid (b : PricedBuy setup rid) :
    (componentRecord b.mintPart rid .notCreated 0 0).postInit = .ok () :=
  valid_of_checked (checked_componentRecord (Nat.zero_le _) ⟨rfl, rfl, rfl⟩)

theorem PricedBuy.released_valid (b : PricedBuy setup rid) :
    (componentRecord b.mintPart rid .reservationReleased 0
      b.mintPart.maximumReservedAtomic).postInit = .ok () :=
  valid_of_checked (checked_componentRecord (Nat.le_of_eq (Nat.zero_add _)) ⟨rfl, rfl, rfl, rfl⟩)

theorem PricedBuy.lockedMint_valid (b : PricedBuy setup rid) : b.lockedMint.postInit = .ok () :=
  valid_of_checked (checked_createdLocked b.mint_pos)

theorem PricedBuy.closedMint_valid (b : PricedBuy setup rid) :
    (closedMintRecord b.lockedMint).postInit = .ok () := by
  obtain ⟨h1, h2, h3, h4, _, _, h5, h6, h7, _⟩ :=
    AccountComponentRecord.postInit_eq_ok.mp b.lockedMint_valid
  have hmint : b.lockedMint.scope = .mint := b.parts.mint
  rw [hmint] at h2
  refine AccountComponentRecord.postInit_eq_ok.mpr ⟨h1, ?_, h3, h4, Nat.le_refl _, ?_, ?_⟩
  · exact (congrArg _ hmint).trans h2
  · exact (Int.sub_self _).symm
  · exact ⟨h2.symm, h5, rfl, h7, h6.symm⟩

/-- **Every record a round trip carries passes its own checks.** -/
theorem Lawful.component_valid (h : Lawful setup rid s) :
    ∀ r ∈ s.accountComponents, r.postInit = .ok () := by
  have hpair : ∀ m w : AccountComponentRecord, m.postInit = .ok () → w.postInit = .ok () →
      ∀ r ∈ [m, w], r.postInit = .ok () := by
    intro m w hm hw r hr
    rw [List.mem_cons, List.mem_singleton] at hr
    rcases hr with rfl | rfl
    · exact hm
    · exact hw
  have hheld : ∀ p : HeldPosition setup rid,
      ∀ r ∈ [p.lockedMint, p.walletRecord], r.postInit = .ok () := fun p =>
    hpair _ _ p.lockedMint_valid p.walletRecord_of.valid
  cases h with
  | suppressed => exact fun _ hr => (nomatch hr)
  | buyReferenceRejected b stable record => exact hpair _ _ b.notCreated_valid record.valid
  | buyPreSubmitRejected b record => exact hpair _ _ b.notCreated_valid record.valid
  | buyPending => exact fun _ hr => (nomatch hr)
  | buyFailed b failed record => exact hpair _ _ b.released_valid record.valid
  | holding p => exact hheld p
  | sellUnavailable p => exact hheld p
  | sellPreSubmitRejected o => exact hheld o.toHeldPosition
  | sellPending o => exact hheld o.toHeldPosition
  | sellFailed o => exact hheld o.toHeldPosition
  | closed o => exact hpair _ _ o.closedMint_valid o.walletRecord_of.valid

/-! ## Locked value -/

/-- **The deposits a round trip holds are the locked deltas of its records.** -/
theorem Lawful.locked_eq (h : Lawful setup rid s) (a : AssetId) :
    s.holds (.locked a) = (s.accountComponents.map fun r =>
      if r.assetId = a then r.lockedDeltaAtomic else 0).sum := by
  have hvalid := h.component_valid
  rw [RoundTripState.holds, depositTotal, depositTotal]
  generalize s.accountComponents = records at hvalid
  induction records with
  | nil => rfl
  | cons r rest ih =>
    have hrest := ih fun r' hr' => hvalid r' (List.mem_cons_of_mem _ hr')
    obtain ⟨_, _, _, _, _, hd, _⟩ :=
      AccountComponentRecord.postInit_eq_ok.mp (hvalid r List.mem_cons_self)
    simp only [List.map_cons, List.sum_cons]
    split
    · omega
    · omega

theorem HeldPosition.walletRecord_policy (p : HeldPosition setup rid) :
    p.walletRecord.scope = .wallet ∧ p.walletRecord.releasePolicy = .runLocked := by
  have hscope : p.walletRecord.scope = .wallet :=
    p.walletRecord_of.scope_eq.trans p.parts.wallet
  obtain ⟨_, hp, _⟩ := AccountComponentRecord.postInit_eq_ok.mp p.walletRecord_of.valid
  rw [hscope] at hp
  exact ⟨hscope, hp.symm⟩

/-- The value a position has locked in its wallet account, whatever its mint account. -/
theorem HeldPosition.runLockedValue_eq (p : HeldPosition setup rid) {m : AccountComponentRecord}
    (hm : m.scope = .mint) (a : AssetId) :
    (assetAmount (runLockedValue [m, p.walletRecord]) a : Int)
      = if p.walletRecord.assetId = a then p.walletRecord.lockedDeltaAtomic else 0 := by
  obtain ⟨hscope, hpolicy⟩ := p.walletRecord_policy
  have hd := p.walletRecord_of.lockedDelta_eq
  rw [assetAmount, runLockedValue, Tally.lookup_collect]
  by_cases hpos : 0 < p.walletRecord.lockedDeltaAtomic
  · have hnat : (p.walletRecord.lockedDeltaAtomic.toNat : Int)
        = p.walletRecord.lockedDeltaAtomic := Int.toNat_of_nonneg hpos.le
    simp only [List.filter_cons, hm, hscope, hpolicy, hpos, List.filter_nil]
    simp [hnat]
  · have hzero : p.walletRecord.lockedDeltaAtomic = 0 := by omega
    simp only [List.filter_cons, hm, hscope, hpolicy, hpos, List.filter_nil]
    simp [hzero]

/-- A closed round trip holds what its wallet account has locked. -/
theorem Lawful.runLocked_eq (h : Lawful setup rid s) (hs : s.status = .closed) (a : AssetId) :
    (assetAmount (runLockedValue s.accountComponents) a : Int) = s.holds (.locked a) := by
  rw [h.locked_eq a]
  cases h with
  | closed o =>
    have hmint : (closedMintRecord o.lockedMint).scope = .mint := o.parts.mint
    have hzero : (closedMintRecord o.lockedMint).lockedDeltaAtomic = 0 := rfl
    show (assetAmount (runLockedValue [closedMintRecord o.lockedMint, o.walletRecord]) a : Int)
      = ([closedMintRecord o.lockedMint, o.walletRecord].map _).sum
    rw [o.runLockedValue_eq hmint a]
    simp [hzero]
  | _ => cases hs

end Records

end OnchainBacktest
