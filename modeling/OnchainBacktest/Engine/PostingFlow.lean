import OnchainBacktest.Engine.Settlement

/-!
# The flow of postings

`Flow` is what a list of postings comes to: the total of each asset, what moves in the reserved and
in the available balances, and which postings leave the wallet and its venue.  Each lemma says what
appending one posting, or one of the parts the builders of transactions share, does to all of these
at once, so that the balance of a whole transaction is read off its text.
-/

set_option autoImplicit false

namespace OnchainBacktest

open Checked

/-! ## Sums of postings -/

section Sums

variable {ps : List Posting} {accountId : AccountId} {kind : AccountKind} {assetId asset : AssetId}
  {amount : Int}

theorem assetTotal_append (ps qs : List Posting) :
    assetTotal (ps ++ qs) asset = assetTotal ps asset + assetTotal qs asset := by
  simp [assetTotal]

@[simp] theorem assetTotal_posting :
    assetTotal (posting ps accountId kind assetId amount) asset
      = assetTotal ps asset + if assetId = asset then amount else 0 := by
  rw [posting]
  split
  · rw [assetTotal_append]
    simp [assetTotal]
  · rename_i h
    simp [not_not.mp h]

theorem posting_eq_append {ps : List Posting} {accountId : AccountId} {kind : AccountKind}
    {assetId : AssetId} {amount : Int} :
    posting ps accountId kind assetId amount = ps ++ posting [] accountId kind assetId amount := by
  rw [posting, posting]
  split
  · rfl
  · rw [List.append_nil]

theorem posting_ne_nil {accountId : AccountId} {kind : AccountKind} {assetId : AssetId}
    {amount : Int} : posting [] accountId kind assetId amount ≠ [] ↔ amount ≠ 0 := by
  rw [posting]
  split
  · rename_i h
    simp [h]
  · rename_i h
    simp [not_not.mp h]

/-- One posting alone does not conserve its asset. -/
theorem two_le_of_conserves (hne : ps ≠ []) (h : ∀ a, assetTotal ps a = 0) : 2 ≤ ps.length := by
  by_contra hlt
  have hlen : ps.length = 1 := by
    have hpos : 0 < ps.length := List.length_pos_iff.mpr hne
    omega
  obtain ⟨p, rfl⟩ := List.length_eq_one_iff.mp hlen
  have hp := h p.assetId
  simp only [assetTotal, List.map_cons, List.map_nil, List.sum_cons, List.sum_nil, if_true,
    add_zero] at hp
  exact p.amount_ne hp

/-- Where a posting to the available or the reserved balances is made: to the account of its own
asset. -/
def Posting.AtHome (p : Posting) : Prop :=
  (p.account.kind = .portfolioAvailable → p.account.accountId = .available p.assetId) ∧
    (p.account.kind = .portfolioReserved → p.account.accountId = .reserved p.assetId)

/-- What a list of postings comes to: in all, in the reserved and the available balances, and the
postings to external accounts. -/
structure Flow (ps : List Posting) (total reserved available : AssetId → Int)
    (external : List Posting) : Prop where
  total : ∀ a, assetTotal ps a = total a
  reserved : ∀ a, kindDelta ps .portfolioReserved a = reserved a
  available : ∀ a, kindDelta ps .portfolioAvailable a = available a
  external : ps.filter (fun p => p.account.kind = .external) = external
  atHome : ∀ p ∈ ps, p.AtHome

namespace Flow

variable {total reserved available : AssetId → Int} {external : List Posting}

theorem nil : Flow [] (fun _ => 0) (fun _ => 0) (fun _ => 0) [] :=
  ⟨fun _ => rfl, fun _ => rfl, fun _ => rfl, rfl, by simp⟩

theorem congr (h : Flow ps total reserved available external)
    {total' reserved' available' : AssetId → Int} {external' : List Posting}
    (h1 : ∀ a, total a = total' a) (h2 : ∀ a, reserved a = reserved' a)
    (h3 : ∀ a, available a = available' a) (h4 : external = external') :
    Flow ps total' reserved' available' external' where
  total a := (h.total a).trans (h1 a)
  reserved a := (h.reserved a).trans (h2 a)
  available a := (h.available a).trans (h3 a)
  external := h.external.trans h4
  atHome := h.atHome

/-- A posting is at home when it is appended to its own account. -/
theorem atHome_posting (h : ∀ p ∈ ps, p.AtHome)
    (ha : kind = .portfolioAvailable → accountId = .available assetId)
    (hr : kind = .portfolioReserved → accountId = .reserved assetId) :
    ∀ p ∈ posting ps accountId kind assetId amount, p.AtHome := by
  intro p hp
  rw [posting] at hp
  split at hp
  · rcases List.mem_append.mp hp with hp | hp
    · exact h p hp
    · rw [List.mem_singleton.mp hp]
      exact ⟨ha, hr⟩
  · exact h p hp

/-- A posting to neither balance and to no external account moves the asset alone. -/
theorem elsewhere (h : Flow ps total reserved available external) (accountId : AccountId)
    (kind : AccountKind) (assetId : AssetId) (amount : Int)
    (hkind : kind ≠ .portfolioAvailable ∧ kind ≠ .portfolioReserved ∧ kind ≠ .external) :
    Flow (posting ps accountId kind assetId amount)
      (fun a => total a + if assetId = a then amount else 0) reserved available external := by
  obtain ⟨ha, hr, he⟩ := hkind
  refine ⟨fun a => ?_, fun a => ?_, fun a => ?_, ?_, atHome_posting h.atHome
    (fun hk => absurd hk ha) fun hk => absurd hk hr⟩
  · rw [assetTotal_posting, h.total a]
  · rw [kindDelta_posting, if_neg fun hc => hr hc.1, add_zero, h.reserved a]
  · rw [kindDelta_posting, if_neg fun hc => ha hc.1, add_zero, h.available a]
  · rw [posting]
    split
    · rw [List.filter_append, h.external]
      simp [he]
    · exact h.external

theorem reserve (h : Flow ps total reserved available external) (assetId : AssetId)
    (amount : Int) :
    Flow (posting ps (.reserved assetId) .portfolioReserved assetId amount)
      (fun a => total a + if assetId = a then amount else 0)
      (fun a => reserved a + if assetId = a then amount else 0) available external := by
  refine ⟨fun a => ?_, fun a => ?_, fun a => ?_, ?_, atHome_posting h.atHome
    (fun hk => by cases hk) fun _ => rfl⟩
  · rw [assetTotal_posting, h.total a]
  · rw [kindDelta_posting, h.reserved a]
    simp only [true_and]
  · rw [kindDelta_posting, if_neg (by simp), add_zero, h.available a]
  · rw [posting]
    split
    · rw [List.filter_append, h.external]
      simp
    · exact h.external

theorem avail (h : Flow ps total reserved available external) (assetId : AssetId)
    (amount : Int) :
    Flow (posting ps (.available assetId) .portfolioAvailable assetId amount)
      (fun a => total a + if assetId = a then amount else 0) reserved
      (fun a => available a + if assetId = a then amount else 0) external := by
  refine ⟨fun a => ?_, fun a => ?_, fun a => ?_, ?_, atHome_posting h.atHome
    (fun _ => rfl) fun hk => by cases hk⟩
  · rw [assetTotal_posting, h.total a]
  · rw [kindDelta_posting, if_neg (by simp), add_zero, h.reserved a]
  · rw [kindDelta_posting, h.available a]
    simp only [true_and]
  · rw [posting]
    split
    · rw [List.filter_append, h.external]
      simp
    · exact h.external

theorem outside (h : Flow ps total reserved available external) (accountId : AccountId)
    (assetId : AssetId) (amount : Int) :
    Flow (posting ps accountId .external assetId amount)
      (fun a => total a + if assetId = a then amount else 0) reserved available
      (posting external accountId .external assetId amount) := by
  refine ⟨fun a => ?_, fun a => ?_, fun a => ?_, ?_, atHome_posting h.atHome
    (fun hk => by cases hk) fun hk => by cases hk⟩
  · rw [assetTotal_posting, h.total a]
  · rw [kindDelta_posting, if_neg (by simp), add_zero, h.reserved a]
  · rw [kindDelta_posting, if_neg (by simp), add_zero, h.available a]
  · rw [posting, posting]
    split
    · rw [List.filter_append, h.external]
      simp
    · exact h.external

end Flow

end Sums

/-! ## Parts of a transaction -/

theorem amount_canonical (l : List (AssetId × Nat)) (a : AssetId) :
    Tally.amount (canonicalAssetAmounts l) a = Tally.amount l a := Tally.amount_collect _ l a

theorem lookup_canonical (l : List (AssetId × Nat)) (a : AssetId) :
    Tally.lookup (canonicalAssetAmounts l) a = Tally.amount l a := Tally.lookup_collect _ l a

/-- An amount listed once for each of some keys. -/
theorem amount_map_keys {entries : AssetAmounts} (hnd : (entries.map Prod.fst).Nodup)
    (f : AssetId → Nat) (a : AssetId) :
    Tally.amount (entries.map fun e => (e.1, f e.1)) a
      = if a ∈ entries.map Prod.fst then f a else 0 := by
  induction entries with
  | nil => simp
  | cons e rest ih =>
    rw [List.map_cons, List.nodup_cons] at hnd
    rw [List.map_cons, Tally.amount_cons, ih hnd.2, List.map_cons]
    by_cases he : e.1 = a
    · subst he
      rw [if_pos rfl, if_neg hnd.1, if_pos List.mem_cons_self, add_zero]
    · rw [if_neg he, zero_add]
      simp only [List.mem_cons, Ne.symm he, false_or]

namespace Flow

variable {ps : List Posting} {total reserved available : AssetId → Int} {external : List Posting}

theorem reserveAmounts (amounts : AssetAmounts) (h : Flow ps total reserved available external) :
    Flow (OnchainBacktest.reserveAmounts ps amounts) total
      (fun a => reserved a + Tally.amount amounts a)
      (fun a => available a - Tally.amount amounts a) external := by
  induction amounts generalizing ps total reserved available with
  | nil => exact h.congr (fun _ => rfl) (by simp) (by simp) rfl
  | cons e rest ih =>
    have h1 : Flow _ _ _ _ external :=
      (h.avail e.1 (-(e.2 : Int))).reserve e.1 e.2
    refine (ih h1).congr (fun a => ?_) (fun a => ?_) (fun a => ?_) rfl
    · split <;> omega
    · rw [Tally.amount_cons]
      split <;> push_cast <;> omega
    · rw [Tally.amount_cons]
      split <;> push_cast <;> omega

/-- Amounts that are covered are settled, one after the other. -/
theorem foldlM_settleReserved {consumed : AssetAmounts} (entries : AssetAmounts)
    (hle : ∀ e ∈ entries, Tally.lookup consumed e.1 ≤ e.2)
    (h : Flow ps total reserved available external) :
    ∃ ps', entries.foldlM (settleReservedAmount consumed) ps = .ok ps' ∧
      Flow ps'
        (fun a => total a - Tally.amount (entries.map fun e => (e.1, Tally.lookup consumed e.1)) a)
        (fun a => reserved a - Tally.amount entries a)
        (fun a => available a + (Tally.amount entries a
          - Tally.amount (entries.map fun e => (e.1, Tally.lookup consumed e.1)) a))
        external := by
  induction entries generalizing ps total reserved available with
  | nil => exact ⟨ps, rfl, h.congr (by simp) (by simp) (by simp) rfl⟩
  | cons e rest ih =>
    have hle1 := hle e List.mem_cons_self
    have h1 : Flow _ _ _ _ external :=
      (h.reserve e.1 (-(e.2 : Int))).avail e.1 ((e.2 : Int) - Tally.lookup consumed e.1)
    obtain ⟨ps', hps', hflow⟩ := ih (fun e he => hle e (List.mem_cons_of_mem _ he)) h1
    refine ⟨ps', ?_, hflow.congr (fun a => ?_) (fun a => ?_) (fun a => ?_) rfl⟩
    · rw [List.foldlM_cons, settleReservedAmount, refuseIf_of_not (not_lt.mpr hle1), ok_bind]
      exact hps'
    · rw [List.map_cons, Tally.amount_cons]
      split <;> push_cast <;> omega
    · rw [Tally.amount_cons]
      split <;> push_cast <;> omega
    · rw [List.map_cons, Tally.amount_cons, Tally.amount_cons]
      split <;> push_cast <;> omega

/-- **Settling what covers the consumption is not refused**: the reservation is given up, and what
was not consumed comes back. -/
theorem settled (h : Flow ps total reserved available external) (rs cs : List (AssetId × Nat))
    (hle : ∀ a, Tally.amount cs a ≤ Tally.amount rs a) :
    ∃ ps', settleReservedAmounts ps (canonicalAssetAmounts rs) (canonicalAssetAmounts cs)
        = .ok ps' ∧
      Flow ps' (fun a => total a - Tally.amount cs a) (fun a => reserved a - Tally.amount rs a)
        (fun a => available a + (Tally.amount rs a - Tally.amount cs a)) external := by
  have hkeys : ∀ {a}, a ∈ (canonicalAssetAmounts cs).map Prod.fst →
      a ∈ (canonicalAssetAmounts rs).map Prod.fst := by
    intro a ha
    have hpos := Tally.mem_keys_collect.mp ha
    exact Tally.mem_keys_collect.mpr (lt_of_lt_of_le hpos (hle a))
  have hnd : ((canonicalAssetAmounts rs).map Prod.fst).Nodup := Tally.nodup_collect _ rs
  have hentry : ∀ e ∈ canonicalAssetAmounts rs,
      Tally.lookup (canonicalAssetAmounts cs) e.1 ≤ e.2 := by
    intro e he
    have h1 : Tally.lookup (canonicalAssetAmounts rs) e.1 = e.2 := by
      rw [Tally.lookup, (Dict.find_eq_some_iff hnd).mpr he]
      rfl
    have h2 := hle e.1
    rw [lookup_canonical] at h1 ⊢
    omega
  obtain ⟨ps', hps', hflow⟩ := h.foldlM_settleReserved (canonicalAssetAmounts rs) hentry
  have hconsumed : ∀ a, Tally.amount ((canonicalAssetAmounts rs).map fun e =>
      (e.1, Tally.lookup (canonicalAssetAmounts cs) e.1)) a = Tally.amount cs a := by
    intro a
    rw [amount_map_keys hnd, lookup_canonical]
    by_cases ha : a ∈ (canonicalAssetAmounts rs).map Prod.fst
    · rw [if_pos ha]
    · rw [if_neg ha]
      have hzero := mt Tally.mem_keys_collect.mpr ha
      have h2 := hle a
      omega
  refine ⟨ps', ?_, hflow.congr (fun a => ?_) (fun a => ?_) (fun a => ?_) rfl⟩
  · have hsub : ¬ ∃ e ∈ canonicalAssetAmounts cs,
        e.1 ∉ (canonicalAssetAmounts rs).map Prod.fst := by
      rintro ⟨e, he, hout⟩
      exact hout (hkeys (List.mem_map_of_mem he))
    rw [settleReservedAmounts, refuseIf_of_not hsub, ok_bind]
    exact hps'
  · rw [hconsumed]
  · rw [amount_canonical]
  · rw [hconsumed, amount_canonical]

theorem lockedPostings (records : List AccountComponentRecord)
    (h : Flow ps total reserved available external) :
    Flow (OnchainBacktest.lockedPostings ps records)
      (fun a => total a + depositTotal (·.paidAtomic) records a) reserved available external := by
  induction records generalizing ps total with
  | nil => exact h.congr (by simp) (fun _ => rfl) (fun _ => rfl) rfl
  | cons r rest ih =>
    have h1 := h.elsewhere (lockedDepositAccountId r) .portfolioLocked r.assetId r.paidAtomic
      (by decide)
    refine (ih h1).congr (fun a => ?_) (fun _ => rfl) (fun _ => rfl) rfl
    rw [depositTotal_cons, add_assoc]

theorem refundPostings (records : List AccountComponentRecord)
    (h : Flow ps total reserved available external) :
    Flow (OnchainBacktest.refundPostings ps records) total reserved
      (fun a => available a + depositTotal (·.refundedAtomic) records a) external := by
  induction records generalizing ps total available with
  | nil => exact h.congr (fun _ => rfl) (fun _ => rfl) (by simp) rfl
  | cons r rest ih =>
    have h1 := h.elsewhere (lockedDepositAccountId r) .portfolioLocked r.assetId
      (-(r.refundedAtomic : Int)) (by decide)
    refine (ih (h1.avail r.assetId r.refundedAtomic)).congr (fun a => ?_) (fun _ => rfl)
      (fun a => ?_) rfl
    · split <;> omega
    · rw [depositTotal_cons, add_assoc]

theorem cashback (intent : PositionIntent) (quote : ProtocolQuote)
    (h : Flow ps total reserved available external) :
    Flow (cashbackPostings ps intent quote) total reserved available
      (posting external quote.cashbackSourceAccountId .external intent.quoteAssetId
        (-(quote.cashbackReceivableAtomic : Int))) := by
  have h1 := h.elsewhere (cashbackReceivableAccountId intent.roundtripId) .receivable
    intent.quoteAssetId quote.cashbackReceivableAtomic (by decide)
  refine (h1.outside quote.cashbackSourceAccountId intent.quoteAssetId
    (-(quote.cashbackReceivableAtomic : Int))).congr (fun a => ?_) (fun _ => rfl) (fun _ => rfl) rfl
  split <;> omega

end Flow

end OnchainBacktest
