import OnchainBacktest.Engine.CopyPositions
import OnchainBacktest.Engine.CopyStages

/-!
# What the control of a copy run guarantees

In every reachable state each position has at most one exit pending and at most four of them, it is
exhausted exactly when the fourth has failed, and each retry is decided no earlier than the retry
position of the failure before it, at least two seconds of chain time later.  A mint is entered at
most once, an exit reason never changes once it is latched, and a control method that raises leaves
its control as it was.
-/

set_option autoImplicit false

namespace OnchainBacktest

open Checked CopyPositionControl Relation

section Control

variable [DomainDigest]

/-! ## One position -/

/-- An exit that failed, before or at its landing. -/
def CopyOrderAttempt.failedSell (attempt : CopyOrderAttempt) : Prop :=
  attempt.side = .sell ∧ (attempt.status = .rejected ∨ attempt.status = .failed)

/-- A retry is decided no earlier than the retry position of the failure before it, which is two
seconds of chain time after that failure. -/
structure RetryFollows (clock : CompactTransactionClock) (failed retried : CopyOrderAttempt) :
    Prop where
  position : ∃ retry, holdingDeadline clock failed.notifiedAt SELL_RETRY_DELAY_NS = .ok retry ∧
    retry.boundaryOrdinal ≤ retried.decision.boundaryOrdinal
  time : ∃ failedAt retriedAt, clock.blockTimeForPosition failed.notifiedAt = .ok failedAt ∧
    clock.blockTimeForPosition retried.decision = .ok retriedAt ∧
    failedAt + SELL_RETRY_DELAY_NS ≤ retriedAt

/-- What holds of the control of a position. -/
structure ControlHolds (clock : CompactTransactionClock) (state : CopyExecutionPosition) :
    Prop where
  one_pending : (state.attempts.filter fun a => a.side = .sell ∧ a.status = .submitted).length ≤ 1
  four_sells : (state.attempts.filter fun a => a.side = .sell).length ≤ MAXIMUM_SELL_ATTEMPTS
  one_buy : (state.attempts.filter fun a => a.side = .buy).length ≤ 1
  exhausted : state.control.status = .exhausted ↔
    ∃ a ∈ state.attempts, a.number = MAXIMUM_SELL_ATTEMPTS ∧ a.failedSell
  retries : state.attempts.tail.IsChain (RetryFollows clock)

section Sells

variable {setup : CopySetup} {intent : CopyBuyIntent} {tokens : Nat} {first due : ChainPosition}
  {sells : List CopyOrderAttempt}

omit [DomainDigest] in
theorem CopyOrderAttempt.Failed.status_cases {attempt : CopyOrderAttempt} (h : attempt.Failed) :
    attempt.status = .rejected ∨ attempt.status = .failed := by
  cases h with
  | rejected status => exact .inl status
  | landed status => exact .inr status

/-- The failed exits of a position are exits that failed, numbered from one. -/
theorem FailedSells.forall_mem (h : FailedSells setup intent tokens first sells due) :
    ∀ a ∈ sells, a.side = .sell ∧ a.Failed ∧ a.number ≤ sells.length := by
  induction h with
  | nil => simp
  | append _ sell_of _ failed _ ih =>
    intro a ha
    rw [List.length_append, List.length_singleton]
    rcases List.mem_append.mp ha with ha | ha
    · obtain ⟨hside, hfailed, hnumber⟩ := ih a ha
      exact ⟨hside, hfailed, Nat.le_succ_of_le hnumber⟩
    · obtain rfl := List.mem_singleton.mp ha
      exact ⟨sell_of.side_eq, failed, sell_of.number_eq.le⟩

omit [DomainDigest] in
/-- The next attempt after a failure follows it as a retry. -/
theorem retryFollows_of_deadline {a b : CopyOrderAttempt} {retry landing : ChainPosition}
    {delay : Nat}
    (hretry : holdingDeadline setup.clock a.notifiedAt SELL_RETRY_DELAY_NS = .ok retry)
    (hle : retry.boundaryOrdinal ≤ b.decision.boundaryOrdinal)
    (hlanding : setup.clock.transactionAfter b.decision delay = .ok landing) :
    RetryFollows setup.clock a b := by
  obtain ⟨failedAt, retryTime, hfailed, htime, hlater⟩ := holdingDeadline_time hretry
  obtain ⟨r, _, hcovers, _⟩ := CompactTransactionClock.transactionAfter_eq_ok hlanding
  have hdecided := CompactTransactionClock.blockTimeForPosition_eq_ok.mpr ⟨r, hcovers, rfl⟩
  exact ⟨⟨retry, hretry, hle⟩, failedAt, _, hfailed, hdecided,
    hlater.trans (blockTimeForPosition_mono htime hdecided hle)⟩

/-- Where the next exit of a position may be decided, after the failed ones. -/
theorem FailedSells.retries (h : FailedSells setup intent tokens first sells due) :
    sells.IsChain (RetryFollows setup.clock) ∧
      ∀ last ∈ sells.getLast?,
        holdingDeadline setup.clock last.notifiedAt SELL_RETRY_DELAY_NS = .ok due := by
  induction h with
  | nil => simp
  | append earlier sell_of due_le failed retry_eq ih =>
    refine ⟨List.isChain_append.mpr ⟨ih.1, .singleton _, ?_⟩, ?_⟩
    · intro a ha b hb
      rw [List.head?_cons, Option.mem_some_iff] at hb
      obtain rfl := hb
      exact retryFollows_of_deadline (ih.2 a ha) due_le sell_of.landing
    · intro last hlast
      rw [List.getLast?_append, List.getLast?_singleton, Option.some_or, Option.mem_some_iff]
        at hlast
      rw [← hlast]
      exact retry_eq

end Sells

section Stages

variable {setup : CopySetup} {state : CopyExecutionPosition} {entry last : CopyOrderAttempt}
  {quote : ProtocolQuote} {trigger due : ChainPosition} {sells : List CopyOrderAttempt}

omit [DomainDigest] in
/-- A position that has not tried to sell. -/
theorem controlHolds_of_entry (hattempts : state.attempts = [entry]) (hside : entry.side = .buy)
    (hstatus : state.control.status ≠ .exhausted) : ControlHolds setup.clock state := by
  refine ⟨?_, ?_, ?_, ?_, ?_⟩
  · simp [hattempts, hside]
  · simp [hattempts, hside]
  · simp [hattempts, hside]
  · simp [hattempts, hside, hstatus, CopyOrderAttempt.failedSell]
  · rw [hattempts]
    exact .nil

/-- A position that has tried to sell: only the last attempt can be pending. -/
theorem Trying.controlHolds (h : Trying setup state entry quote trigger sells due last)
    (hexhausted : state.control.status = .exhausted ↔
      sells.length + 1 = MAXIMUM_SELL_ATTEMPTS ∧ last.failedSell) :
    ControlHolds setup.clock state := by
  have hentry : entry.side = .buy := h.bought.buy.side_eq
  have hlast : last.side = .sell := h.last_of.side_eq
  have hsells := h.failed.forall_mem
  have hpending : ∀ a ∈ sells, ¬ (a.side = .sell ∧ a.status = .submitted) := by
    intro a ha hsubmitted
    rcases (hsells a ha).2.1.status_cases with hstatus | hstatus
    · rw [hstatus] at hsubmitted
      cases hsubmitted.2
    · rw [hstatus] at hsubmitted
      cases hsubmitted.2
  refine ⟨?_, ?_, ?_, ?_, ?_⟩
  · rw [h.attempts, List.filter_cons_of_neg (by simp [hentry]), List.filter_append,
      List.filter_eq_nil_iff.mpr (by simpa using hpending), List.nil_append]
    exact (List.length_filter_le _ _)
  · rw [h.attempts, List.filter_cons_of_neg (by simp [hentry])]
    refine (List.length_filter_le _ _).trans ?_
    rw [List.length_append, List.length_singleton]
    exact h.count_le
  · rw [h.attempts, List.filter_cons_of_pos (by simp [hentry]), List.filter_append,
      List.filter_eq_nil_iff.mpr, List.nil_append, List.filter_cons_of_neg (by simp [hlast])]
    · simp
    · intro a ha
      simp [(hsells a ha).1]
  · rw [hexhausted, h.attempts]
    constructor
    · rintro ⟨hcount, hfailed⟩
      exact ⟨last, by simp, h.last_of.number_eq.trans hcount, hfailed⟩
    · rintro ⟨a, ha, hnumber, hfailed⟩
      rcases List.mem_cons.mp ha with rfl | ha
      · rw [CopyOrderAttempt.failedSell, hentry] at hfailed
        cases hfailed.1
      rcases List.mem_append.mp ha with ha | ha
      · have h1 := (hsells a ha).2.2
        have h2 := h.count_le
        omega
      · obtain rfl := List.mem_singleton.mp ha
        exact ⟨h.last_of.number_eq.symm.trans hnumber, hfailed⟩
  · rw [h.attempts, List.tail_cons]
    obtain ⟨hchain, hnext⟩ := h.failed.retries
    refine List.isChain_append.mpr ⟨hchain, .singleton _, ?_⟩
    intro a ha b hb
    rw [List.head?_cons, Option.mem_some_iff] at hb
    obtain rfl := hb
    exact retryFollows_of_deadline (hnext a ha) h.due_le h.last_of.landing

/-- **Every stage keeps the rules of the control.** -/
theorem CopyStage.controlHolds (h : CopyStage setup state) : ControlHolds setup.clock state := by
  cases h with
  | fresh control attempts =>
    refine ⟨by simp [attempts], by simp [attempts], by simp [attempts], ?_, ?_⟩
    · simp [attempts, control, CopyExecutionPosition.start]
    · rw [attempts]
      exact .nil
  | entering control attempts buy =>
    refine controlHolds_of_entry attempts buy.side_eq ?_
    rw [control]
    exact CopyPositionStatus.noConfusion
  | unentered control attempts buy =>
    refine controlHolds_of_entry attempts buy.side_eq ?_
    rw [control]
    exact CopyPositionStatus.noConfusion
  | holding status bought attempts =>
    refine controlHolds_of_entry attempts bought.buy.side_eq ?_
    rw [status]
    exact CopyPositionStatus.noConfusion
  | selling status trying pending =>
    refine trying.controlHolds (iff_of_false (by simp [status]) ?_)
    rintro ⟨_, _, hfailed⟩
    rw [pending.status] at hfailed
    simp at hfailed
  | waiting status trying _ count_lt =>
    refine trying.controlHolds (iff_of_false (by simp [status]) ?_)
    rintro ⟨hcount, _⟩
    omega
  | exhausted status trying failed count_eq =>
    exact trying.controlHolds
      (iff_of_true status ⟨count_eq, trying.last_of.side_eq, failed.status_cases⟩)
  | closed status trying filled =>
    refine trying.controlHolds (iff_of_false (by simp [status]) ?_)
    rintro ⟨_, _, hfailed⟩
    rw [filled.status] at hfailed
    simp at hfailed

end Stages

/-! ## From one position to a run -/

section Reasons

variable {setup : CopySetup} {desk : CopyDesk} {state : CopyExecutionPosition}
  {attempt : CopyOrderAttempt} {handled : CopyHandled} {position : ChainPosition}

omit [DomainDigest] in
/-- What became of an order has no say in why its position exits. -/
theorem notifyControl_exitReason {control control' : CopyPositionControl} {successful : Bool}
    (h : notifyControl setup control attempt successful = .ok control') :
    control'.exitReason = control.exitReason := by
  cases hside : attempt.side with
  | buy =>
    cases successful with
    | false =>
      rw [notifyControl_buyFailed hside] at h
      obtain ⟨_, rfl⟩ := failBuy_eq_ok.mp h
      rfl
    | true =>
      cases hquote : attempt.landingQuote with
      | none =>
        rw [notifyControl.eq_def, hside, hquote] at h
        cases h
      | some quote =>
        rw [notifyControl_buyFilled hside hquote] at h
        obtain ⟨_, _, _, _, _, _, rfl⟩ := fillBuy_eq_ok h
        rfl
  | sell =>
    cases successful with
    | false =>
      rw [notifyControl_sellFailed hside] at h
      obtain ⟨_, _, ⟨_, rfl⟩ | ⟨_, _, _, rfl⟩⟩ := failSell_eq_ok h
      · rfl
      · rfl
    | true =>
      rw [notifyControl_sellFilled hside] at h
      obtain ⟨_, _, rfl⟩ := fillSell_eq_ok h
      rfl

omit [DomainDigest] in
theorem CopySettled.exitReason {successful : Bool}
    (h : CopySettled setup desk state attempt successful handled) :
    handled.state.control.exitReason = state.control.exitReason := by
  obtain ⟨hnotify⟩ := h
  exact notifyControl_exitReason hnotify

theorem CopySubmission.exitReason {amounts : AssetAmounts}
    (h : CopySubmission setup desk state attempt amounts handled) :
    handled.state.control.exitReason = state.control.exitReason := by
  cases h with
  | rejected settled => exact settled.exitReason
  | submitted => rfl

/-- Beginning an order leaves the exit reason of its position alone. -/
theorem beginRequest_exitReason {isBuy : Bool}
    (h : beginRequest setup position desk state isBuy = .ok handled) :
    handled.state.control.exitReason = state.control.exitReason := by
  rw [beginRequest] at h
  split at h
  · obtain ⟨_, _, _, _, _, _, _, outcome⟩ := beginBuy_cases h
    rcases outcome with ⟨_, _, settled⟩ | ⟨_, _, _, submission⟩
    · exact settled.exitReason
    · exact submission.exitReason
  · obtain ⟨control_eq, _, _, outcome⟩ := beginSell_cases h
    obtain ⟨_, _, _, _, _, _, _, _, _, _, rfl⟩ := beginSell_eq_ok control_eq
    rcases outcome with ⟨_, _, settled⟩ | ⟨_, _, _, submission⟩
    · exact settled.exitReason
    · exact submission.exitReason

/-- So does a landing. -/
theorem land_exitReason (h : land setup desk state position = .ok handled) :
    handled.state.control.exitReason = state.control.exitReason := by
  cases land_cases h with
  | failed _ _ _ _ settled => exact settled.exitReason
  | filled _ _ _ _ _ _ settled => exact settled.exitReason

omit [DomainDigest] in
/-- An evaluation never changes a reason that is latched. -/
theorem evaluateExit_latched {control control' : CopyPositionControl} {price : Option TokenPrice}
    {returned : Option CopyExitReason} {reason : CopyExitReason}
    (h : control.evaluateExit position price = .ok (control', returned))
    (hreason : control.exitReason = some reason) : control'.exitReason = some reason := by
  cases evaluateExit_cases h with
  | other | noted => exact hreason
  | triggered _ _ _ _ _ hnone =>
    rw [hnone] at hreason
    cases hreason

end Reasons

section Runs

variable {setup : CopySetup} {run run' : CopyRun}

/-- **What one step does to the positions of a run.**  A position it finds is about the same intent
afterwards and keeps its exit reason; the one position it may start is of a mint it consumes. -/
theorem CopyStep.entry_cases (h : CopyStep setup run run') :
    (∀ mint ∈ run.consumedMints, mint ∈ run'.consumedMints) ∧
      ∃ started : Option ContentDigest, ∀ e' ∈ run'.states.entries,
        (∃ e ∈ run.states.entries, e'.1 = e.1 ∧ e'.2.intent = e.2.intent ∧
          ∀ reason, e.2.control.exitReason = some reason →
            e'.2.control.exitReason = some reason) ∨
        (some e'.1 = started ∧ e'.2.intent.assetId ∉ run.consumedMints ∧
          e'.2.intent.assetId ∈ run'.consumedMints) := by
  obtain ⟨position, _, hmove⟩ := h
  have hput : ∀ {positionId : ContentDigest} {state : CopyExecutionPosition}
      (state' : CopyExecutionPosition),
      run.states.get? positionId = some state → state'.intent = state.intent →
      (∀ reason, state.control.exitReason = some reason →
        state'.control.exitReason = some reason) →
      ∀ e' ∈ (run.states.set positionId state').entries, ∃ e ∈ run.states.entries,
        e'.1 = e.1 ∧ e'.2.intent = e.2.intent ∧ ∀ reason, e.2.control.exitReason = some reason →
          e'.2.control.exitReason = some reason := by
    intro positionId state state' hget hintent hreason e' he'
    rcases Dict.mem_entries_set.mp he' with rfl | ⟨he', _⟩
    · exact ⟨_, Dict.get?_eq_some_iff.mp hget, rfl, hintent, hreason⟩
    · exact ⟨e', he', rfl, rfl, fun _ h => h⟩
  cases hmove with
  | history | observed | rescheduled =>
    exact ⟨fun _ h => h, none, fun e' he' => .inl ⟨e', he', rfl, rfl, fun _ h => h⟩⟩
  | consumed hsignal hdecide =>
    refine ⟨?_, none, fun e' he' => .inl ⟨e', he', rfl, rfl, fun _ h => h⟩⟩
    rw [PumpfunCopyBuyStrategy.decide_eq_none hdecide]
    exact fun _ h => h
  | @entered signal intent _ hsignal _ hdecide =>
    obtain ⟨_, hintent, _, _, _, _, _, hnew, hconsumed⟩ :=
      PumpfunCopyBuyStrategy.decide_eq_some hdecide
    simp only [hconsumed]
    refine ⟨fun _ h => List.mem_append_left _ h, some intent.roundtripId, fun e' he' => ?_⟩
    rcases Dict.mem_entries_set.mp he' with rfl | ⟨he', _⟩
    · have hasset : (CopyExecutionPosition.start intent).intent.assetId = signal.assetId :=
        congrArg CopyBuySignal.assetId hintent
      rw [hasset]
      exact .inr ⟨rfl, hnew, List.mem_append_right _ (List.mem_singleton.mpr rfl)⟩
    · exact .inl ⟨e', he', rfl, rfl, fun _ h => h⟩
  | @evaluated _ state _ control _ hstate hevaluate =>
    have hreason : ∀ reason, state.control.exitReason = some reason →
        control.exitReason = some reason := fun _ => evaluateExit_latched hevaluate
    exact ⟨fun _ h => h, none, fun e' he' => .inl
      (hput { state with control := control } hstate rfl hreason e' he')⟩
  | begun hstate hbegin =>
    have hreason := beginRequest_exitReason hbegin
    exact ⟨fun _ h => h, none, fun e' he' => .inl
      (hput _ hstate (beginRequest_intent hbegin) (fun _ h => hreason.trans h) e' he')⟩
  | landed hstate hland =>
    have hreason := land_exitReason hland
    exact ⟨fun _ h => h, none, fun e' he' => .inl
      (hput _ hstate (land_intent hland) (fun _ h => hreason.trans h) e' he')⟩

/-- Each mint that is consumed has one position at most, and no other mint has one. -/
structure MintsOnce (run : CopyRun) : Prop where
  consumed : ∀ e ∈ run.states.entries, e.2.intent.assetId ∈ run.consumedMints
  once : ∀ e ∈ run.states.entries, ∀ e' ∈ run.states.entries,
    e.2.intent.assetId = e'.2.intent.assetId → e.1 = e'.1

theorem MintsOnce.step (h : MintsOnce run) (hstep : CopyStep setup run run') : MintsOnce run' := by
  obtain ⟨hgrow, started, hentries⟩ := hstep.entry_cases
  constructor
  · intro e' he'
    rcases hentries e' he' with ⟨e, he, _, hintent, _⟩ | ⟨_, _, hmem⟩
    · rw [hintent]
      exact hgrow _ (h.consumed e he)
    · exact hmem
  · intro a ha b hb hasset
    rcases hentries a ha with ⟨e, he, hkey, hintent, _⟩ | ⟨hstarted, hnew, _⟩
    · rw [hintent] at hasset
      rcases hentries b hb with ⟨e', he', hkey', hintent', _⟩ | ⟨_, hnew', _⟩
      · rw [hintent'] at hasset
        rw [hkey, hkey']
        exact h.once e he e' he' hasset
      · exact absurd (hasset ▸ h.consumed e he) hnew'
    · rcases hentries b hb with ⟨e', he', _, hintent', _⟩ | ⟨hstarted', _⟩
      · rw [hasset, hintent'] at hnew
        exact absurd (h.consumed e' he') hnew
      · exact Option.some.inj (hstarted.trans hstarted'.symm)

omit [DomainDigest] in
/-- Two positions of one mint are one position. -/
theorem MintsOnce.unique (h : MintsOnce run) {e e' : ContentDigest × CopyExecutionPosition}
    (he : e ∈ run.states.entries) (he' : e' ∈ run.states.entries)
    (hasset : e.2.intent.assetId = e'.2.intent.assetId) : e = e' :=
  List.inj_on_of_nodup_map run.states.nodup he he' (h.once e he e' he' hasset)

/-- **In every reachable state a mint has one position at most.** -/
theorem CopyReachable.mintsOnce (h : CopyReachable setup run) : MintsOnce run := by
  induction h with
  | refl => exact ⟨fun e he => (List.not_mem_nil he).elim, fun e he => (List.not_mem_nil he).elim⟩
  | tail _ hstep ih => exact ih.step hstep

/-- The position of a mint has a reason to exit, and the mint is consumed. -/
structure Latched (assetId : AssetId) (reason : CopyExitReason) (run : CopyRun) : Prop where
  consumed : assetId ∈ run.consumedMints
  kept : ∀ e ∈ run.states.entries, e.2.intent.assetId = assetId →
    e.2.control.exitReason = some reason

section Latches

variable {assetId : AssetId} {reason : CopyExitReason}

theorem Latched.step (h : Latched assetId reason run) (hstep : CopyStep setup run run') :
    Latched assetId reason run' := by
  obtain ⟨hgrow, _, hentries⟩ := hstep.entry_cases
  refine ⟨hgrow _ h.consumed, fun e' he' hasset => ?_⟩
  rcases hentries e' he' with ⟨e, he, _, hintent, hreason⟩ | ⟨_, hnew, _⟩
  · rw [hintent] at hasset
    exact hreason reason (h.kept e he hasset)
  · rw [hasset] at hnew
    exact absurd h.consumed hnew

/-- A latched reason stays, whatever the run does next. -/
theorem Latched.steps (h : Latched assetId reason run)
    (hsteps : ReflTransGen (CopyStep setup) run run') : Latched assetId reason run' := by
  induction hsteps with
  | refl => exact h
  | tail _ hstep ih => exact ih.step hstep

theorem CopyReachable.latched (h : CopyReachable setup run)
    {e : ContentDigest × CopyExecutionPosition} (he : e ∈ run.states.entries)
    (hreason : e.2.control.exitReason = some reason) :
    Latched e.2.intent.assetId reason run := by
  refine ⟨h.mintsOnce.consumed e he, fun e' he' hasset => ?_⟩
  have hsame : e' = e := h.mintsOnce.unique he' he hasset
  rw [hsame]
  exact hreason

end Latches

/-! ## The control of a run -/

/-- No method of a position control that raises changes it. -/
def RaisesUnchanged {α : Type} (method : ControlMethod α) : Prop :=
  ∀ control fault, (method.run control).1 = .error fault → (method.run control).2 = control

/-- **In every reachable state the control of each position holds its rules, a mint has one position
at most, and a reason to exit is never replaced; a control method that raises changes nothing.** -/
theorem CopyReachable.control_sound (h : CopyReachable setup run) :
    (∀ e ∈ run.states.entries, ControlHolds setup.clock e.2) ∧
    (∀ e ∈ run.states.entries, ∀ e' ∈ run.states.entries,
      e.2.intent.assetId = e'.2.intent.assetId → e = e') ∧
    (∀ e ∈ run.states.entries, ∀ reason, e.2.control.exitReason = some reason →
      ∀ later, ReflTransGen (CopyStep setup) run later → ∀ e' ∈ later.states.entries,
        e'.2.intent.assetId = e.2.intent.assetId → e'.2.control.exitReason = some reason) ∧
    RaisesUnchanged ControlMethod.failBuy ∧
    (∀ position curveInput tokens,
      RaisesUnchanged (ControlMethod.fillBuy setup.clock position curveInput tokens)) ∧
    (∀ position price, RaisesUnchanged (ControlMethod.evaluateExit position price)) ∧
    (∀ position, RaisesUnchanged (ControlMethod.beginSell setup.clock position)) ∧
    (∀ attempt position submitted,
      RaisesUnchanged (ControlMethod.failSell setup.clock attempt position submitted)) ∧
    (∀ attempt position, RaisesUnchanged (ControlMethod.fillSell attempt position)) := by
  refine ⟨?_, ?_, ?_, ?_, ?_, ?_, ?_, ?_, ?_⟩
  · intro e he
    exact (h.stage e he).controlHolds
  · intro e he e' he' hasset
    exact h.mintsOnce.unique he he' hasset
  · intro e he reason hreason later hlater e' he' hasset
    exact ((h.latched he hreason).steps hlater).kept e' he' hasset
  · exact fun _ _ => ControlMethod.failBuy_implements.unchanged
  · exact fun _ _ _ _ _ => (ControlMethod.fillBuy_implements _ _ _ _).unchanged
  · exact fun _ _ _ _ => (ControlMethod.evaluateExit_implements _ _).unchanged
  · exact fun _ _ _ => (ControlMethod.beginSell_implements _ _).unchanged
  · exact fun _ _ _ _ _ => (ControlMethod.failSell_implements _ _ _ _).unchanged
  · exact fun _ _ _ _ => (ControlMethod.fillSell_implements _ _).unchanged

end Runs

end Control

section Sample

attribute [local instance] sampleDigest

/-- The sample run closes its one position with its control sound. -/
theorem control_sound_sample :
    ∃ output, runCopyBacktest copySampleSetup 8 copySampleSource = .ok (some output) ∧
      output.records.map (fun r => r.status) = [.closed] ∧
      ∀ e ∈ output.run.states.entries, ControlHolds copySampleSetup.clock e.2 := by
  obtain ⟨output, hrun, hclosed⟩ := runCopyBacktest_sample
  have hreachable := (replayCopy_reachable (runCopyBacktest_eq_ok hrun).1).1
  exact ⟨output, hrun, hclosed, (CopyReachable.control_sound hreachable).1⟩

end Sample

end OnchainBacktest
