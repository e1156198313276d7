import OnchainBacktest.Engine.SnipingEnd

/-!
# The books of a run

Every row of the ledger belongs to one round trip, and what the rows of a round trip have posted is
what its state holds (`Kept`).  A turn keeps this, so at every moment the portfolio holds what the
round trips hold together (`Kept.holds_eq`): the reserved balance is the sum of the reservations of
the orders in flight, the locked balance that of the deposits, the receivable that of the cashback.
-/

set_option autoImplicit false

namespace OnchainBacktest

open Checked

/-! ## Rows of one round trip -/

section Correlated

variable {ledger ts : List LedgerTransaction} {rid : ContentDigest}

theorem correlated_append_all (h : ∀ t ∈ ts, t.correlationId = rid) :
    correlated (ledger ++ ts) rid = correlated ledger rid ++ ts := by
  rw [correlated, Journal.rowsOf_append]
  refine congrArg _ ?_
  rw [Journal.rowsOf, List.filter_eq_self]
  exact fun t ht => decide_eq_true (h t ht)

theorem correlated_append_none {rid' : ContentDigest} (h : ∀ t ∈ ts, t.correlationId = rid)
    (hne : rid ≠ rid') : correlated (ledger ++ ts) rid' = correlated ledger rid' := by
  rw [correlated, Journal.rowsOf_append,
    Journal.rowsOf_eq_nil _ fun t ht he => hne ((h t ht).symm.trans he), List.append_nil]
  rfl

end Correlated

/-! ## What the books keep -/

section Books

variable (setup : SnipingSetup)

/-- The books of a run. -/
structure Kept (run : RunState) : Prop where
  booked : run.desk.Booked setup.config.initialAvailable
  rows : ∀ t ∈ run.desk.recorder.ledger, t.correlationId ∈ run.states.keys
  posted : ∀ rid s, run.states.get? rid = some s → ∀ h,
    ledgerPosted (correlated run.desk.recorder.ledger rid) h = s.holds h

variable {setup} {run run' : RunState}

theorem Kept.quiet (h : Kept setup run) (hs : SameOrders run run') : Kept setup run' := by
  refine ⟨h.booked.congr hs.portfolio hs.ledger hs.cashflows, ?_, ?_⟩
  · rw [hs.ledger, hs.states]
    exact h.rows
  · rw [hs.ledger, hs.states]
    exact h.posted

/-- The rows of a round trip that has not started: none. -/
theorem Kept.correlated_eq_nil (h : Kept setup run) {rid : ContentDigest}
    (hnew : run.states.get? rid = none) : correlated run.desk.recorder.ledger rid = [] := by
  refine Journal.rowsOf_eq_nil _ fun t ht he => ?_
  exact Dict.get?_eq_none_iff.mp hnew (he ▸ h.rows t ht)

/-- The books are kept when a run starts. -/
theorem kept_of_start {source : HistoricalEventSource} {m : Moment}
    (h : start setup source = .ok m) : Kept setup m.run := by
  obtain ⟨_, h⟩ := check_bind_eq_ok.mp h
  obtain ⟨counts, _, h⟩ := bind_eq_ok.mp h
  obtain ⟨run, hrun, h⟩ := bind_eq_ok.mp h
  cases h
  obtain ⟨accounts, _, hrun⟩ := bind_eq_ok.mp hrun
  cases hrun
  exact ⟨.opening accounts, fun _ ht => (nomatch ht), fun _ _ hs => (nomatch hs)⟩

variable [DomainDigest]

/-- **A move keeps the books.** -/
theorem Kept.moved {rid : ContentDigest} {boundary : Nat} {old : Option RoundTripState}
    {new : RoundTripState} (h : Kept setup run) (hm : Moved setup rid boundary old new run run') :
    Kept setup run' := by
  obtain ⟨ts, hc, hposted⟩ := hm.move.posted
  refine ⟨hc.booked _ h.booked, fun t ht => ?_, fun rid' s hs holding => ?_⟩
  · rw [hc.ledger] at ht
    rw [hm.states, Dict.mem_keys_set]
    rcases List.mem_append.mp ht with ht | ht
    · exact .inr (h.rows t ht)
    · exact .inl (hc.correlation t ht)
  · rw [hm.states, Dict.get?_set] at hs
    rw [hc.ledger]
    split at hs
    · rename_i he
      subst he
      cases hs
      have hbefore : ledgerPosted (correlated run.desk.recorder.ledger rid') holding
          = heldBefore old holding := by
        cases hold : old with
        | none =>
          rw [h.correlated_eq_nil (hm.before.trans hold)]
          rfl
        | some s => exact h.posted rid' s (hm.before.trans hold) holding
      rw [correlated_append_all hc.correlation, ledgerPosted_append, hposted, hbefore]
      omega
    · rename_i hne
      rw [correlated_append_none hc.correlation (Ne.symm hne)]
      exact h.posted rid' s hs holding

theorem Kept.turn {m m' : Moment} (h : Kept setup m.run) (ht : Turn setup m m') :
    Kept setup m'.run := by
  cases ht with
  | quiet same => exact h.quiet same
  | launched _ _ _ _ moved => exact h.moved moved
  | acted _ _ _ _ _ moved => exact h.moved moved

/-- **The books are kept at every moment of a run.** -/
theorem Reachable.kept {source : HistoricalEventSource} {m : Moment}
    (h : Reachable setup source m) : Kept setup m.run :=
  h.induct (fun _ h₀ => kept_of_start h₀) fun _ _ hr hs ih => ih.turn (hr.turn hs)

omit [DomainDigest] in
/-- **The portfolio holds what the round trips hold together.** -/
theorem Kept.holds_eq (h : Kept setup run) (holding : Holding) :
    run.desk.portfolio.holds holding = run.states.total fun _ s => s.holds holding := by
  rw [h.booked.holds, ledgerPosted,
    ← Journal.sum_rowsOf LedgerTransaction.correlationId run.states.nodup_keys _ h.rows]
  rw [Dict.total, Dict.keys, List.map_map]
  refine congrArg List.sum (List.map_congr_left fun e he => ?_)
  exact h.posted e.1 e.2 (Dict.get?_eq_some_iff.mpr he) holding

end Books

end OnchainBacktest
