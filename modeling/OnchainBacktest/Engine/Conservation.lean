import OnchainBacktest.Engine.AccountBooks
import OnchainBacktest.Engine.SnipingFinish

/-!
# Conservation of cash

The profit of a round trip is computed from its legs and its records; the portfolio moves by
postings.  Both come from the same ledger rows, and every row belongs to exactly one round trip, so
over a completed run the cashflows of the round trips add up to what the portfolio has gained
(`cash_conserved`).
-/

set_option autoImplicit false

namespace OnchainBacktest

open Checked

/-! ## The profit of a closed round trip -/

section Closed

variable {market : Market} {profile : String} {mode : ExecutionMode} {rid : ContentDigest}
  {s : RoundTripState} {cash : Int} {time : Nat} {r : RoundTripRecord}

theorem FinalizedFrom.closed (h : FinalizedFrom market profile mode rid s cash time r)
    (hs : r.status = .closed) :
    r.realizedCashPnlAtomic = some cash ∧
      r.economicPnlAtomic = some (cash + ((r.cashbackReceivableAtomic : Int)
        + assetAmount (runLockedValue r.accountComponents) r.quoteAssetId)) := by
  obtain ⟨buy, sell, valuation, reference, landing, settled, _, _, hv, _, _, _, rfl⟩ := h.built
  have hs : s.status = .closed := hs
  rw [valueRoundtrip, if_pos hs] at hv
  cases hv
  exact ⟨rfl, rfl⟩

end Closed

section Conservation

variable [DomainDigest] (setup : SnipingSetup)

/-- **Cash is conserved.**  In a completed run every ledger row belongs to exactly one record; the
cashflows of the records add up to what the portfolio has gained, in every asset; and a closed
round trip reports as realized result the cash of its rows, and as economic result that cash with
the cashback and the locked deposits its rows have left it. -/
theorem cash_conserved (source : HistoricalEventSource) (output : SnipingRunOutput)
    (h : run setup source = .ok output) :
    ∃ state, simulate setup source = .ok state ∧
      output.summary.finalBalances = state.desk.portfolio.semanticBalances ∧
      (∀ t ∈ output.recorder.ledger,
        ∃! r, r ∈ output.records ∧ r.roundtripId = t.correlationId) ∧
      (∀ a, (output.records.map fun r =>
          ledgerCash (correlated output.recorder.ledger r.roundtripId) a).sum
        = state.desk.portfolio.available a + state.desk.portfolio.reserved a
          - openingAvailable setup.config.initialAvailable a) ∧
      ∀ r ∈ output.records, r.status = .closed →
        let rows := correlated output.recorder.ledger r.roundtripId
        let quote := r.quoteAssetId
        let receivable := (r.cashbackReceivableAtomic : Int)
        let locked := (assetAmount (runLockedValue r.accountComponents) quote : Int)
        r.realizedCashPnlAtomic = some (ledgerCash rows quote) ∧
          r.economicPnlAtomic = some (ledgerCash rows quote + (receivable + locked)) ∧
          ledgerPosted rows (.owed quote) = receivable ∧
          ledgerPosted rows (.locked quote) = locked := by
  obtain ⟨state, hstate, hf⟩ := run_eq_ok h
  obtain ⟨hreach, _⟩ := reachable_of_simulate hstate
  have hkept : Kept setup state := hreach.kept
  have hnd : (output.records.map RoundTripRecord.roundtripId).Nodup :=
    hf.keys ▸ state.states.nodup_keys
  refine ⟨state, hstate, ?_, fun t ht => ?_, fun a => ?_, fun r hr hs => ?_⟩
  · obtain ⟨policy, hp⟩ := hf.summary
    rw [hp]
    rfl
  · rw [hf.ledger] at ht
    have hmem := hkept.rows t ht
    rw [← hf.keys] at hmem
    obtain ⟨r, hr, he⟩ := List.mem_map.mp hmem
    refine ⟨r, ⟨hr, he⟩, fun r' hr' => ?_⟩
    exact List.inj_on_of_nodup_map hnd hr'.1 hr (hr'.2.trans he.symm)
  · have hcash := hkept.booked.cash a
    rw [available_initial _ setup.config.assets_nodup] at hcash
    have hsum := Journal.sum_rowsOf LedgerTransaction.correlationId hnd output.recorder.ledger
      (fun t ht => by
        rw [hf.keys]
        exact hkept.rows t (hf.ledger ▸ ht)) fun t => cashDelta t.postings a
    rw [List.map_map] at hsum
    have htotal : (output.records.map fun r =>
        ledgerCash (correlated output.recorder.ledger r.roundtripId) a).sum
          = ledgerCash state.desk.recorder.ledger a := by
      rw [← hf.ledger]
      exact hsum
    rw [htotal]
    omega
  · obtain ⟨s, hget, hfinal⟩ := hf.record hr
    obtain ⟨_, hstatus, _, hcashback, hcomponents, hquote⟩ := hfinal.copies
    have hlawful : Lawful setup r.roundtripId s := hreach.core.orders.lawful _ _ hget
    have hposted := hkept.posted _ _ hget
    obtain ⟨h1, h2⟩ := hfinal.closed hs
    rw [hkept.booked.cashflows, ← hf.ledger, ← hquote] at h1 h2
    rw [← hf.ledger] at hposted
    refine ⟨h1, h2, (hposted _).trans ?_, (hposted _).trans ?_⟩
    · rw [RoundTripState.holds, if_pos hquote.symm, hcashback]
    · rw [hcomponents]
      exact (hlawful.runLocked_eq (hstatus ▸ hs) _).symm

end Conservation

attribute [local instance] sampleDigest in
/-- The sample run conserves its cash. -/
theorem cash_conserved_sample : ∃ output, run sampleSetup sampleSource = .ok output ∧
    ∃ state, simulate sampleSetup sampleSource = .ok state ∧
      output.summary.finalBalances = state.desk.portfolio.semanticBalances := by
  obtain ⟨output, h⟩ := run_sample
  obtain ⟨state, hstate, hbalances, _⟩ := cash_conserved sampleSetup sampleSource output h
  exact ⟨output, h, state, hstate, hbalances⟩

end OnchainBacktest
