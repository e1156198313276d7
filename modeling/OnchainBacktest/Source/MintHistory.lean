import OnchainBacktest.Source.EvidenceSteps

/-!
# The history of one mint

`MintHistory` is what the accepted rows of one mint amount to: a launch, trades that lead from the
reserves of the launch to each other's in the order of their positions, the one that takes the last
token and ends them, its completion and the migration.  `MintRecord` says that the record the
accumulator keeps of the mint stands for such a history, and every row it accepts keeps it so.
-/

set_option autoImplicit false

namespace OnchainBacktest

namespace Source

open Checked

/-! ## Chains of reserves -/

/-- Each trade starts from the reserves the one before it left. -/
def ReserveChain : Nat → Nat → List TradeRow → Prop
  | _, _, [] => True
  | token, sol, trade :: rest => TradeStep token sol trade ∧
    ReserveChain trade.virtualTokenReservesAtomic trade.virtualSolReservesLamports rest

/-- The reserves the trades leave. -/
def reservesAfter : Nat → Nat → List TradeRow → Nat × Nat
  | token, sol, [] => (token, sol)
  | _, _, trade :: rest =>
    reservesAfter trade.virtualTokenReservesAtomic trade.virtualSolReservesLamports rest

theorem reserveChain_concat {trade : TradeRow} {trades : List TradeRow} {token sol : Nat} :
    ReserveChain token sol (trades ++ [trade]) ↔ ReserveChain token sol trades ∧
      TradeStep (reservesAfter token sol trades).1 (reservesAfter token sol trades).2 trade := by
  induction trades generalizing token sol with
  | nil => simp [ReserveChain, reservesAfter]
  | cons first rest ih =>
    rw [List.cons_append, ReserveChain, ReserveChain, ih, reservesAfter, and_assoc]

theorem reservesAfter_concat {trade : TradeRow} {trades : List TradeRow} {token sol : Nat} :
    reservesAfter token sol (trades ++ [trade]) =
      (trade.virtualTokenReservesAtomic, trade.virtualSolReservesLamports) := by
  induction trades generalizing token sol with
  | nil => rfl
  | cons first rest ih =>
    rw [List.cons_append, reservesAfter, ih]

/-! ## Histories -/

def completions (rows : List LifecycleRow) : List LifecycleRow :=
  rows.filter fun row => row.lifecycleKind = .completed

def migrations (rows : List LifecycleRow) : List LifecycleRow :=
  rows.filter fun row => row.lifecycleKind = .migrated

/-- A completion stands right after its terminal trade, in its transaction. -/
structure Completes (trade : TradeRow) (row : LifecycleRow) : Prop where
  block : row.blockOrdinal = trade.blockOrdinal
  transaction : row.transactionIndex = trade.transactionIndex
  event : row.eventIndex = trade.eventIndex + 1
  signature : row.signature = trade.signature
  sol : row.virtualSolReservesLamports = trade.virtualSolReservesLamports

/-- What the rows of one mint amount to. -/
structure MintHistory (launch : LaunchRow) (trades : List TradeRow)
    (lifecycle : List LifecycleRow) : Prop where
  after_launch : ∀ trade ∈ trades, launch.place < trade.place
  in_order : (trades.map TradeRow.place).Pairwise (· < ·)
  chain : ReserveChain PUMPFUN_INITIAL_VIRTUAL_TOKEN_RESERVES PUMPFUN_INITIAL_VIRTUAL_SOL_RESERVES
    trades
  terminal_last : ∀ before trade after, trades = before ++ trade :: after → Terminal trade →
    after = []
  terminal_buy : ∀ trade ∈ trades, Terminal trade → trade.side = "BUY"
  same_curve : ∀ trade ∈ trades, trade.venue = launch.venue ∧ trade.mode = launch.mode
  bundled : ∀ trade ∈ trades, trade.signature = launch.signature →
    (trade.blockOrdinal, trade.transactionIndex) = (launch.blockOrdinal, launch.transactionIndex)
  kinds : ∀ row ∈ lifecycle, row.lifecycleKind = .completed ∨ row.lifecycleKind = .migrated
  lifecycle_curve : ∀ row ∈ lifecycle, row.venue = launch.venue ∧ row.mode = launch.mode
  completed : ∀ row ∈ completions lifecycle, ∃ trade ∈ trades, Terminal trade ∧ Completes trade row
  completed_once : (completions lifecycle).length ≤ 1
  migrated : ∀ row ∈ migrations lifecycle, ∃ completion ∈ completions lifecycle,
    completion.place < row.place
  migrated_once : (migrations lifecycle).length ≤ 1

/-- The record of the accumulator stands for the history of its mint. -/
structure MintRecord (launch : LaunchRow) (state : LaunchState) (trades : List TradeRow)
    (lifecycle : List LifecycleRow) : Prop where
  history : MintHistory launch trades lifecycle
  signature : state.signature = launch.signature
  curve : state.curve = launch.venue
  mode : ∃ row : Row, EvidenceAccumulator.CreationReads row state ∧
    Source.mode (row.cell "token_program") (row.cell "cashback_enabled") = .ok launch.mode
  created : eventPlace state.creationPosition = launch.place
  last : state.lastTradePosition.map eventPlace = trades.getLast?.map TradeRow.place
  reserves : (state.virtualToken, state.virtualSol) = reservesAfter
    PUMPFUN_INITIAL_VIRTUAL_TOKEN_RESERVES PUMPFUN_INITIAL_VIRTUAL_SOL_RESERVES trades
  active : state.terminal = none → ∀ trade ∈ trades, ¬ Terminal trade
  terminal : ∀ terminal ∈ state.terminal, ∃ trade ∈ trades, Terminal trade ∧
    ∃ raw, trade.eventIndex = raw * 2 ∧
      terminal = EvidenceAccumulator.terminalOf trade raw
  uncompleted : state.completionPosition = none → completions lifecycle = []
  completion : ∀ at_ ∈ state.completionPosition, ∃ row ∈ completions lifecycle, row.place = at_
  unmigrated : state.migrated = false → migrations lifecycle = []

/-! ## A launch -/

theorem mintRecord_launch {launch : LaunchRow} {state : LaunchState} {row : Row}
    (hsignature : state.signature = launch.signature) (hcurve : state.curve = launch.venue)
    (hcreation : EvidenceAccumulator.CreationReads row state)
    (hmode : mode (row.cell "token_program") (row.cell "cashback_enabled") = .ok launch.mode)
    (hcreated : eventPlace state.creationPosition = launch.place)
    (hlast : state.lastTradePosition = none) (htoken : state.virtualToken =
      PUMPFUN_INITIAL_VIRTUAL_TOKEN_RESERVES)
    (hsol : state.virtualSol = PUMPFUN_INITIAL_VIRTUAL_SOL_RESERVES)
    (hterminal : state.terminal = none) (hcompletion : state.completionPosition = none) :
    MintRecord launch state [] [] where
  history := by
    refine ⟨?_, List.Pairwise.nil, trivial, ?_, ?_, ?_, ?_, ?_, ?_, ?_, Nat.zero_le 1, ?_,
      Nat.zero_le 1⟩
    · exact fun _ hmem => absurd hmem List.not_mem_nil
    · intro before trade after hsplit _
      exact absurd hsplit (List.append_ne_nil_of_right_ne_nil _ (List.cons_ne_nil _ _)).symm
    all_goals exact fun _ hmem => absurd hmem List.not_mem_nil
  signature := hsignature
  curve := hcurve
  mode := ⟨row, hcreation, hmode⟩
  created := hcreated
  last := by rw [hlast]; rfl
  reserves := by rw [htoken, hsol]; rfl
  active := fun _ _ hmem => absurd hmem List.not_mem_nil
  terminal := by
    intro terminal hmem
    rw [hterminal] at hmem
    exact absurd hmem (Option.not_mem_none terminal)
  uncompleted := fun _ => rfl
  completion := by
    intro at_ hmem
    rw [hcompletion] at hmem
    exact absurd hmem (Option.not_mem_none at_)
  unmigrated := fun _ => rfl

/-! ## A trade -/

theorem forall_mem_concat {α : Type} {P : α → Prop} {items : List α} {item : α}
    (h : ∀ other ∈ items, P other) (hitem : P item) : ∀ other ∈ items ++ [item], P other := by
  intro other hother
  rcases List.mem_append.mp hother with hother | hother
  · exact h other hother
  · rw [List.mem_singleton.mp hother]
    exact hitem

section Trade

variable {launch : LaunchRow} {state state' : LaunchState} {trades : List TradeRow}
  {lifecycle : List LifecycleRow} {trade : TradeRow} {raw : Nat}

theorem TradeRow.place_of_event (hevent : trade.eventIndex = raw * 2) :
    trade.place = eventPlace (Source.place trade.blockOrdinal trade.transactionIndex raw) := by
  rw [eventPlace_place, TradeRow.place, hevent]

/-- The last of an increasing list is the greatest. -/
theorem le_getLast {α β : Type} [Preorder β] {f : α → β} {items : List α} {last : α}
    (horder : (items.map f).Pairwise (· < ·)) (hlast : items.getLast? = some last) :
    ∀ item ∈ items, f item ≤ f last := by
  obtain ⟨front, rfl⟩ := List.getLast?_eq_some_iff.mp hlast
  rw [List.map_append, List.pairwise_append] at horder
  intro item hmem
  rcases List.mem_append.mp hmem with hmem | hmem
  · exact (horder.2.2 (f item) (List.mem_map_of_mem hmem) (f last) List.mem_cons_self).le
  · rw [List.mem_singleton.mp hmem]

theorem pairwise_concat_map {α β : Type} [Preorder β] {f : α → β} {items : List α} {item : α}
    (horder : (items.map f).Pairwise (· < ·)) (hlater : ∀ other ∈ items, f other < f item) :
    ((items ++ [item]).map f).Pairwise (· < ·) := by
  rw [List.map_append, List.map_singleton, List.pairwise_append]
  refine ⟨horder, List.pairwise_singleton _ _, fun a ha b hb => ?_⟩
  obtain ⟨other, hother, rfl⟩ := List.mem_map.mp ha
  rw [List.mem_singleton.mp hb]
  exact hlater other hother

/-- An accepted trade is later than every trade of its mint. -/
theorem MintRecord.earlier (h : MintRecord launch state trades lifecycle)
    (happlied : EvidenceAccumulator.TradeApplied state state' trade raw)
    (hevent : trade.eventIndex = raw * 2) : ∀ other ∈ trades, other.place < trade.place := by
  intro other hother
  rcases Option.eq_none_or_eq_some trades.getLast? with hnone | ⟨last, hlast⟩
  · rw [List.getLast?_eq_none_iff.mp hnone] at hother
    exact absurd hother List.not_mem_nil
  · have hplace := h.last
    rw [hlast, Option.map_some] at hplace
    obtain ⟨position, hposition, heq⟩ := Option.map_eq_some_iff.mp hplace
    have hlater : last.place < trade.place := by
      rw [← heq, TradeRow.place_of_event hevent]
      exact eventPlace_lt (happlied.after_last position hposition)
    exact (le_getLast h.history.in_order hlast other hother).trans_lt hlater

/-- Only the last trade of a mint can be terminal. -/
theorem terminal_last_concat (hactive : ∀ other ∈ trades, ¬ Terminal other)
    (before : List TradeRow) (other : TradeRow) (after : List TradeRow)
    (hsplit : trades ++ [trade] = before ++ other :: after) (hterminal : Terminal other) :
    after = [] := by
  rcases List.eq_nil_or_concat after with hnil | ⟨rest, last, rfl⟩
  · exact hnil
  · rw [List.concat_eq_append, ← List.cons_append, ← List.append_assoc] at hsplit
    obtain ⟨rfl, -⟩ := List.append_inj' hsplit rfl
    exact absurd hterminal (hactive other (List.mem_append_right _ List.mem_cons_self))

theorem MintRecord.history_of_trade (h : MintRecord launch state trades lifecycle)
    (happlied : EvidenceAccumulator.TradeApplied state state' trade raw)
    (hevent : trade.eventIndex = raw * 2) (hcurve : trade.venue = state.curve)
    (hmode : trade.mode = launch.mode) : MintHistory launch (trades ++ [trade]) lifecycle where
  after_launch := by
    refine forall_mem_concat h.history.after_launch ?_
    rw [← h.created, TradeRow.place_of_event hevent]
    exact eventPlace_lt happlied.after_creation
  in_order := pairwise_concat_map h.history.in_order (h.earlier happlied hevent)
  chain := by
    rw [reserveChain_concat, ← h.reserves]
    exact ⟨h.history.chain, happlied.step⟩
  terminal_last := terminal_last_concat (h.active happlied.active)
  terminal_buy := forall_mem_concat h.history.terminal_buy happlied.terminal_buy
  same_curve := forall_mem_concat h.history.same_curve ⟨hcurve.trans h.curve, hmode⟩
  bundled := by
    refine forall_mem_concat h.history.bundled fun hsame => ?_
    obtain ⟨hblock, htransaction, -⟩ := place_inj h.created
    rw [happlied.bundled (hsame.trans h.signature.symm), hblock, htransaction]
  kinds := h.history.kinds
  lifecycle_curve := h.history.lifecycle_curve
  completed := by
    intro row hrow
    obtain ⟨other, hother, hcompletes⟩ := h.history.completed row hrow
    exact ⟨other, List.mem_append_left _ hother, hcompletes⟩
  completed_once := h.history.completed_once
  migrated := h.history.migrated
  migrated_once := h.history.migrated_once

/-- **An accepted trade extends the history of its mint.** -/
theorem MintRecord.of_trade (h : MintRecord launch state trades lifecycle)
    (happlied : EvidenceAccumulator.TradeApplied state state' trade raw)
    (hevent : trade.eventIndex = raw * 2) (hcurve : trade.venue = state.curve)
    (hmode : trade.mode = launch.mode) : MintRecord launch state' (trades ++ [trade]) lifecycle := by
  have hhistory := h.history_of_trade happlied hevent hcurve hmode
  have hresult := happlied.result
  subst hresult
  refine ⟨hhistory, h.signature, h.curve, ?_, h.created, ?_, ?_, ?_, ?_, h.uncompleted, h.completion,
    h.unmigrated⟩
  · obtain ⟨row, hcreation, hread⟩ := h.mode
    exact ⟨row, ⟨hcreation.curve, hcreation.tokenProgram, hcreation.cashback⟩, hread⟩
  · rw [List.getLast?_concat, Option.map_some, Option.map_some, TradeRow.place_of_event hevent]
  · rw [reservesAfter_concat]
  · intro hnone
    refine forall_mem_concat (h.active happlied.active) fun hterminal => ?_
    rw [if_pos hterminal] at hnone
    exact absurd hnone (Option.some_ne_none _)
  · intro terminal hmem
    by_cases hterminal : Terminal trade
    · rw [if_pos hterminal] at hmem
      exact ⟨trade, List.mem_append_right _ List.mem_cons_self, hterminal, raw, hevent,
        (Option.mem_some.mp hmem).symm⟩
    · rw [if_neg hterminal] at hmem
      exact absurd hmem (Option.not_mem_none terminal)

end Trade

/-! ## A completion or a migration -/

section Lifecycle

variable {launch : LaunchRow} {state state' : LaunchState} {trades : List TradeRow}
  {lifecycle : List LifecycleRow} {row : LifecycleRow}

theorem completions_concat_completed (lifecycle : List LifecycleRow)
    (hkind : row.lifecycleKind = .completed) :
    completions (lifecycle ++ [row]) = completions lifecycle ++ [row] ∧
      migrations (lifecycle ++ [row]) = migrations lifecycle := by
  constructor
  · simp [completions, hkind]
  · simp [migrations, hkind]

theorem completions_concat_migrated (lifecycle : List LifecycleRow)
    (hkind : row.lifecycleKind = .migrated) :
    completions (lifecycle ++ [row]) = completions lifecycle ∧
      migrations (lifecycle ++ [row]) = migrations lifecycle ++ [row] := by
  constructor
  · simp [completions, hkind]
  · simp [migrations, hkind]

/-- The terminal trade a completion was checked against. -/
theorem MintRecord.completes {terminal : TerminalTrade}
    (h : MintRecord launch state trades lifecycle) (hterminal : state.terminal = some terminal)
    (hplace : row.place =
      Source.place terminal.block terminal.transaction (terminal.rawInstruction * 2 + 1))
    (hsignature : row.signature = terminal.signature)
    (hsol : row.virtualSolReservesLamports = terminal.virtualSol) :
    ∃ trade ∈ trades, Terminal trade ∧ Completes trade row := by
  obtain ⟨trade, htrade, hlast, raw, hevent, rfl⟩ := h.terminal terminal hterminal
  obtain ⟨hblock, htransaction, hindex⟩ := place_inj hplace
  exact ⟨trade, htrade, hlast, hblock, htransaction, by rw [hindex, hevent]; rfl, hsignature, hsol⟩

/-- **An accepted completion or migration extends the history of its mint.** -/
theorem MintRecord.of_lifecycle (h : MintRecord launch state trades lifecycle)
    (happlied : EvidenceAccumulator.LifecycleApplied state row state')
    (hcurve : row.venue = state.curve) (hmode : row.mode = launch.mode) :
    MintRecord launch state' trades (lifecycle ++ [row]) := by
  obtain ⟨creation, hcreation, hread⟩ := h.mode
  have hsame : row.venue = launch.venue ∧ row.mode = launch.mode := ⟨hcurve.trans h.curve, hmode⟩
  cases happlied with
  | completed terminal hkind hterminal hnew hplace hsignature hsol =>
    obtain ⟨hcompletions, hmigrations⟩ := completions_concat_completed lifecycle hkind
    have hnone := h.uncompleted hnew
    rw [hnone, List.nil_append] at hcompletions
    have hunmigrated : migrations lifecycle = [] := by
      refine List.eq_nil_iff_forall_not_mem.mpr fun migration hmem => ?_
      obtain ⟨completion, hcompletion, -⟩ := h.history.migrated migration hmem
      rw [hnone] at hcompletion
      exact absurd hcompletion List.not_mem_nil
    refine ⟨{ h.history with
        kinds := forall_mem_concat h.history.kinds (.inl hkind)
        lifecycle_curve := forall_mem_concat h.history.lifecycle_curve hsame
        completed := ?_
        completed_once := by rw [hcompletions]; exact le_rfl
        migrated := ?_
        migrated_once := by rw [hmigrations]; exact h.history.migrated_once }, h.signature, h.curve,
      ⟨creation, ⟨hcreation.curve, hcreation.tokenProgram, hcreation.cashback⟩, hread⟩, h.created,
      h.last, h.reserves, h.active, h.terminal, fun hnone => ?_, fun at_ hmem => ?_, fun _ => ?_⟩
    · rw [hcompletions]
      intro other hother
      rw [List.mem_singleton.mp hother]
      exact h.completes hterminal hplace hsignature hsol
    · rw [hmigrations, hunmigrated]
      exact fun migration hmem => absurd hmem List.not_mem_nil
    · exact absurd hnone (Option.some_ne_none _)
    · rw [hcompletions]
      exact ⟨row, List.mem_cons_self, Option.mem_some.mp hmem⟩
    · rw [hmigrations, hunmigrated]
  | migrated completion hkind hcompletion hlater hnew =>
    obtain ⟨hcompletions, hmigrations⟩ := completions_concat_migrated lifecycle hkind
    rw [h.unmigrated hnew, List.nil_append] at hmigrations
    refine ⟨{ h.history with
        kinds := forall_mem_concat h.history.kinds (.inr hkind)
        lifecycle_curve := forall_mem_concat h.history.lifecycle_curve hsame
        completed := by rw [hcompletions]; exact h.history.completed
        completed_once := by rw [hcompletions]; exact h.history.completed_once
        migrated := ?_
        migrated_once := by rw [hmigrations]; exact le_rfl }, h.signature, h.curve,
      ⟨creation, ⟨hcreation.curve, hcreation.tokenProgram, hcreation.cashback⟩, hread⟩, h.created,
      h.last, h.reserves, h.active, h.terminal, fun hnone => ?_, fun at_ hmem => ?_,
      fun hfalse => ?_⟩
    · rw [hmigrations, hcompletions]
      intro migration hmem
      obtain ⟨other, hother, hplace⟩ := h.completion completion hcompletion
      rw [List.mem_singleton.mp hmem]
      exact ⟨other, hother, hplace ▸ hlater⟩
    · rw [hcompletions]
      exact h.uncompleted hnone
    · rw [hcompletions]
      exact h.completion at_ hmem
    · exact Bool.noConfusion hfalse

end Lifecycle

end Source

end OnchainBacktest
