import OnchainBacktest.Engine.CopyState
import OnchainBacktest.Lib.Method

/-!
# The methods of a position control

The methods of the control as the source runs them, check after check and field after field, on an
object that a raised fault leaves as it then stands.  Each of them implements the transition of the
same name (`…_implements`): all its checks come before its first write, so that a method that raises
has changed nothing.

After them stands what each transition is when it is made, which is all that is used of them later.
-/

set_option autoImplicit false

namespace OnchainBacktest

open Checked Method Bisect

/-! ## Methods -/

/-- A method of a position control. -/
abbrev ControlMethod (α : Type) : Type := Method CopyPositionControl Fault α

namespace ControlMethod

def failBuy : ControlMethod Unit := do
  read fun control => control.requireStatus .buyPending
  write fun control => { control with status := .buyFailed }

def fillBuy (clock : CompactTransactionClock) (position : ChainPosition)
    (curveInputAtomic tokensAtomic : Nat) : ControlMethod Unit := do
  read fun control => control.requireStatus .buyPending
  read fun control => CopyPositionControl.requireLater position control.buyDecisionPosition
  let expected ← read fun control =>
    clock.transactionAfter control.buyDecisionPosition control.policy.buyDelayTransactions
  read fun _ => refuseIf (position.boundaryOrdinal ≠ expected.boundaryOrdinal)
    (.value "buy landing does not match configured transaction delay")
  let price ← read fun _ => TokenPrice.make curveInputAtomic tokensAtomic
  let deadline ← read fun control => holdingDeadline clock position control.policy.maximumHoldNs
  write fun control => { control with entryPrice := some price }
  write fun control => { control with acquiredTokensAtomic := tokensAtomic }
  write fun control => { control with buyFillPosition := some position }
  write fun control => { control with deadline := some deadline }
  write fun control => { control with status := .opened }

/-- The committed buy of an open position. -/
def committedBuy (control : CopyPositionControl) :
    Except Fault (ChainPosition × TokenPrice × ChainPosition) :=
  match control.buyFillPosition, control.entryPrice, control.deadline with
  | some buyFillPosition, some entryPrice, some deadline =>
    .ok (buyFillPosition, entryPrice, deadline)
  | _, _, _ => .error (.value "open position has no committed buy")

/-- The end of `evaluate_exit`: only the first trigger wins. -/
def latchExit (control : CopyPositionControl) (position : ChainPosition)
    (currentPrice : Option TokenPrice) (due : Option CopyExitReason) :
    ControlMethod (Option CopyExitReason) :=
  match control.exitReason, due with
  | some reason, _ => pure (some reason)
  | none, none => pure none
  | none, some reason => do
    write fun control => { control with exitReason := some reason }
    write fun control => { control with triggerPosition := some position }
    write fun control => { control with triggerPrice := currentPrice }
    ask fun control => control.exitReason

def evaluateExit (position : ChainPosition) (currentPrice : Option TokenPrice) :
    ControlMethod (Option CopyExitReason) := do
  let status ← ask fun control => control.status
  if status ≠ .opened then ask fun control => control.exitReason
  else do
    let bought ← read committedBuy
    read fun _ => CopyPositionControl.requireAtOrAfter position bought.1
    read fun control => refuseIf
      ((position.boundaryOrdinal : Int) < control.lastEvaluationBoundary)
      (.value "exit evaluation moved backwards")
    write fun control => { control with lastEvaluationBoundary := position.boundaryOrdinal }
    let control ← ask id
    latchExit control position currentPrice
      (control.dueReason position currentPrice bought.2.1 bought.2.2)

/-- The latched trigger an exit needs. -/
def causalTrigger (control : CopyPositionControl) : Except Fault ChainPosition :=
  match control.exitReason, control.triggerPosition with
  | some _, some triggerPosition => .ok triggerPosition
  | _, _ => .error (.value "sell requires a causal exit trigger")

def beginSell (clock : CompactTransactionClock) (position : ChainPosition) :
    ControlMethod Nat := do
  read fun control => refuseIf (control.status ≠ .opened ∧ control.status ≠ .retryWait)
    (.value "position cannot start a sell attempt")
  let triggerPosition ← read causalTrigger
  read fun control => CopyPositionControl.requireAtOrAfter position
    (control.retryPosition.getD triggerPosition)
  read fun control => refuseIf (MAXIMUM_SELL_ATTEMPTS ≤ control.sellAttemptCount)
    (.value "sell attempt limit exhausted")
  let landing ← read fun control =>
    clock.transactionAfter position control.policy.sellDelayTransactions
  write fun control => { control with sellAttemptCount := control.sellAttemptCount + 1 }
  write fun control => { control with attemptDecision := some position }
  write fun control => { control with attemptLanding := some landing }
  write fun control => { control with retryPosition := none }
  write fun control => { control with status := .sellPending }
  ask fun control => control.sellAttemptCount

def failSell (clock : CompactTransactionClock) (attempt : Nat) (position : ChainPosition)
    (submitted : Bool) : ControlMethod Unit := do
  read fun control => control.requireAttempt attempt position submitted
  let count ← ask fun control => control.sellAttemptCount
  if count = MAXIMUM_SELL_ATTEMPTS then
    write fun control => { control with status := .exhausted }
  else do
    let retry ← read fun _ => holdingDeadline clock position SELL_RETRY_DELAY_NS
    write fun control => { control with retryPosition := some retry }
    write fun control => { control with status := .retryWait }

def fillSell (attempt : Nat) (position : ChainPosition) : ControlMethod Unit := do
  read fun control => control.requireAttempt attempt position true
  write fun control => { control with status := .closed }

/-! ## The methods implement the transitions -/

/-- A transition that gives nothing back but the control. -/
def silent (f : CopyPositionControl → Except Fault CopyPositionControl)
    (control : CopyPositionControl) : Except Fault (CopyPositionControl × Unit) :=
  (f control).map fun control => (control, ())

theorem failBuy_implements : failBuy.Implements (silent CopyPositionControl.failBuy) := by
  intro control
  rw [silent, CopyPositionControl.failBuy, map_bind]
  exact read_bind_eq_leave fun _ _ => Eq.refl _

theorem fillBuy_implements (clock : CompactTransactionClock) (position : ChainPosition)
    (curveInputAtomic tokensAtomic : Nat) :
    (fillBuy clock position curveInputAtomic tokensAtomic).Implements
      (silent fun control => control.fillBuy clock position curveInputAtomic tokensAtomic) := by
  intro control
  simp only [silent, CopyPositionControl.fillBuy, map_bind]
  iterate 6 refine read_bind_eq_leave fun _ _ => ?_
  rfl

theorem fillSell_implements (attempt : Nat) (position : ChainPosition) :
    (fillSell attempt position).Implements
      (silent fun control => control.fillSell attempt position) := by
  intro control
  simp only [silent, CopyPositionControl.fillSell, map_bind]
  exact read_bind_eq_leave fun _ _ => Eq.refl _

theorem failSell_implements (clock : CompactTransactionClock) (attempt : Nat)
    (position : ChainPosition) (submitted : Bool) :
    (failSell clock attempt position submitted).Implements
      (silent fun control => control.failSell clock attempt position submitted) := by
  intro control
  simp only [silent, CopyPositionControl.failSell, map_bind]
  refine read_bind_eq_leave fun _ _ => ?_
  rw [run_ask_bind]
  by_cases hlast : control.sellAttemptCount = MAXIMUM_SELL_ATTEMPTS
  · rw [if_pos hlast, if_pos hlast]
    rfl
  · rw [if_neg hlast, if_neg hlast, map_bind]
    exact read_bind_eq_leave fun _ _ => rfl

theorem beginSell_implements (clock : CompactTransactionClock) (position : ChainPosition) :
    (beginSell clock position).Implements fun control => control.beginSell clock position := by
  intro control
  simp only [CopyPositionControl.beginSell]
  refine read_bind_eq_leave fun _ _ => ?_
  cases hreason : control.exitReason with
  | none => rw [run_read_bind_error (by rw [causalTrigger, hreason])]; rfl
  | some reason =>
    cases htrigger : control.triggerPosition with
    | none => rw [run_read_bind_error (by rw [causalTrigger, hreason, htrigger])]; rfl
    | some trigger =>
      rw [run_read_bind_ok (by rw [causalTrigger, hreason, htrigger])]
      iterate 3 refine read_bind_eq_leave fun _ _ => ?_
      simp only [run_write_bind, run_ask, leave, hreason, htrigger]

theorem evaluateExit_implements (position : ChainPosition) (currentPrice : Option TokenPrice) :
    (evaluateExit position currentPrice).Implements fun control =>
      control.evaluateExit position currentPrice := by
  intro control
  obtain ⟨positionId, assetId, decision, policy, status, acquired, entry, fill, deadline, reason,
    trigger, price, count, attempt, landing, retry, last⟩ := control
  simp only [evaluateExit, run_ask_bind, CopyPositionControl.evaluateExit]
  by_cases hopen : status ≠ .opened
  · rw [if_pos hopen, if_pos hopen]
    rfl
  rw [if_neg hopen, if_neg hopen]
  cases fill with
  | none => rw [run_read_bind_error (by rw [committedBuy])]; rfl
  | some fill =>
    cases entry with
    | none => rw [run_read_bind_error (by rw [committedBuy])]; rfl
    | some entry =>
      cases deadline with
      | none => rw [run_read_bind_error (by rw [committedBuy])]; rfl
      | some deadline =>
        rw [run_read_bind_ok (by rw [committedBuy])]
        iterate 2 refine read_bind_eq_leave fun _ _ => ?_
        rw [run_write_bind, run_ask_bind, id]
        cases reason with
        | some reason => simp [latchExit, leave]
        | none =>
          simp only [latchExit, ne_eq, not_true_eq_false, if_false]
          cases CopyPositionControl.dueReason _ position currentPrice entry deadline with
          | none => rfl
          | some reason => rfl

end ControlMethod

/-! ## What a transition is -/

namespace CopyPositionControl

variable {control control' : CopyPositionControl} {clock : CompactTransactionClock}
  {position : ChainPosition}

theorem requireStatus_eq_ok {status : CopyPositionStatus} :
    control.requireStatus status = .ok () ↔ control.status = status := by
  simp [requireStatus]

theorem requireAtOrAfter_eq_ok {start : ChainPosition} :
    requireAtOrAfter position start = .ok () ↔ position.networkId = start.networkId ∧
      position.positionSchemaId = start.positionSchemaId ∧
      start.boundaryOrdinal ≤ position.boundaryOrdinal := by
  simp [requireAtOrAfter, check_bind_eq_ok, not_or, and_assoc]

theorem requireLater_eq_ok {start : ChainPosition} :
    requireLater position start = .ok () ↔ position.networkId = start.networkId ∧
      position.positionSchemaId = start.positionSchemaId ∧
      start.boundaryOrdinal < position.boundaryOrdinal := by
  rw [requireLater, check_bind_eq_ok, requireAtOrAfter_eq_ok, refuseIf_eq_ok]
  constructor
  · rintro ⟨⟨h1, h2, h3⟩, h4⟩
    exact ⟨h1, h2, by omega⟩
  · rintro ⟨h1, h2, h3⟩
    exact ⟨⟨h1, h2, by omega⟩, by omega⟩

theorem failBuy_eq_ok : control.failBuy = .ok control' ↔
    control.status = .buyPending ∧ control' = { control with status := .buyFailed } := by
  rw [failBuy, check_bind_eq_ok, requireStatus_eq_ok, Except.ok.injEq, eq_comm (b := control')]

/-- An entry is filled at its exact landing. -/
theorem fillBuy_eq_ok {curveInputAtomic tokensAtomic : Nat}
    (h : control.fillBuy clock position curveInputAtomic tokensAtomic = .ok control') :
    control.status = .buyPending ∧
      control.buyDecisionPosition.boundaryOrdinal < position.boundaryOrdinal ∧
      ∃ price deadline, TokenPrice.make curveInputAtomic tokensAtomic = .ok price ∧
        holdingDeadline clock position control.policy.maximumHoldNs = .ok deadline ∧
        control' = { control with
          entryPrice := some price
          acquiredTokensAtomic := tokensAtomic
          buyFillPosition := some position
          deadline := some deadline
          status := .opened } := by
  obtain ⟨hstatus, h⟩ := check_bind_eq_ok.mp h
  obtain ⟨hlater, h⟩ := check_bind_eq_ok.mp h
  obtain ⟨expected, _, h⟩ := bind_eq_ok.mp h
  obtain ⟨_, h⟩ := check_bind_eq_ok.mp h
  obtain ⟨price, hprice, h⟩ := bind_eq_ok.mp h
  obtain ⟨deadline, hdeadline, h⟩ := bind_eq_ok.mp h
  exact ⟨requireStatus_eq_ok.mp hstatus, (requireLater_eq_ok.mp hlater).2.2, price, deadline,
    hprice, hdeadline, (Except.ok.inj h).symm⟩

/-- What an evaluation leaves behind. -/
inductive ExitEvaluated (control : CopyPositionControl) (position : ChainPosition)
    (currentPrice : Option TokenPrice) : CopyPositionControl → Option CopyExitReason → Prop
  | other (h : control.status ≠ .opened) :
      ExitEvaluated control position currentPrice control control.exitReason
  | noted {fill : ChainPosition} {reason : Option CopyExitReason} (h : control.status = .opened)
      (hfill : control.buyFillPosition = some fill)
      (hafter : requireAtOrAfter position fill = .ok ()) (hreason : control.exitReason = reason) :
      ExitEvaluated control position currentPrice
        { control with lastEvaluationBoundary := position.boundaryOrdinal } reason
  | triggered {fill deadline : ChainPosition} {entry : TokenPrice} {reason : CopyExitReason}
      (h : control.status = .opened) (hfill : control.buyFillPosition = some fill)
      (hentry : control.entryPrice = some entry) (hdeadline : control.deadline = some deadline)
      (hafter : requireAtOrAfter position fill = .ok ()) (hnone : control.exitReason = none)
      (hdue : control.dueReason position currentPrice entry deadline = some reason) :
      ExitEvaluated control position currentPrice
        { control with
          lastEvaluationBoundary := position.boundaryOrdinal
          exitReason := some reason
          triggerPosition := some position
          triggerPrice := currentPrice } (some reason)

theorem evaluateExit_cases {currentPrice : Option TokenPrice} {reason : Option CopyExitReason}
    (h : control.evaluateExit position currentPrice = .ok (control', reason)) :
    ExitEvaluated control position currentPrice control' reason := by
  rw [evaluateExit.eq_def] at h
  split at h
  · rename_i hother
    cases h
    exact .other hother
  rename_i hopen
  have hopen := not_not.mp hopen
  split at h
  · rename_i fill entry deadline hfill hentry hdeadline
    obtain ⟨hafter, h⟩ := check_bind_eq_ok.mp h
    obtain ⟨_, h⟩ := check_bind_eq_ok.mp h
    simp only at h
    split at h
    · cases h
      exact .noted hopen hfill hafter rfl
    · rename_i hnone
      have hnone := not_not.mp hnone
      split at h
      · cases h
        exact .noted hopen hfill hafter hnone
      · rename_i reason hdue
        cases h
        exact .triggered hopen hfill hentry hdeadline hafter hnone hdue
  · cases h

/-- A sell is begun at or after its trigger, and at or after the retry it waits for. -/
theorem beginSell_eq_ok {number : Nat}
    (h : control.beginSell clock position = .ok (control', number)) :
    (control.status = .opened ∨ control.status = .retryWait) ∧
      ∃ reason trigger landing, control.exitReason = some reason ∧
        control.triggerPosition = some trigger ∧
        requireAtOrAfter position (control.retryPosition.getD trigger) = .ok () ∧
        control.sellAttemptCount < MAXIMUM_SELL_ATTEMPTS ∧
        clock.transactionAfter position control.policy.sellDelayTransactions = .ok landing ∧
        number = control.sellAttemptCount + 1 ∧
        control' = { control with
          sellAttemptCount := control.sellAttemptCount + 1
          attemptDecision := some position
          attemptLanding := some landing
          retryPosition := none
          status := .sellPending } := by
  obtain ⟨hstatus, h⟩ := check_bind_eq_ok.mp h
  split at h
  · rename_i reason trigger hreason htrigger
    obtain ⟨hafter, h⟩ := check_bind_eq_ok.mp h
    obtain ⟨hcount, h⟩ := check_bind_eq_ok.mp h
    obtain ⟨landing, hlanding, h⟩ := bind_eq_ok.mp h
    cases h
    refine ⟨?_, reason, trigger, landing, hreason, htrigger, hafter,
      not_le.mp (refuseIf_eq_ok.mp hcount), hlanding, rfl, rfl⟩
    have hstatus := refuseIf_eq_ok.mp hstatus
    tauto
  · cases h

/-- The attempt a notification is about is the one that is pending. -/
theorem requireAttempt_eq_ok {attempt : Nat} {submitted : Bool}
    (h : control.requireAttempt attempt position submitted = .ok ()) :
    control.status = .sellPending ∧ attempt = control.sellAttemptCount := by
  obtain ⟨hstatus, h⟩ := check_bind_eq_ok.mp h
  obtain ⟨_, h⟩ := check_bind_eq_ok.mp h
  split at h
  · cases h
  · obtain ⟨hattempt, _⟩ := check_bind_eq_ok.mp h
    exact ⟨requireStatus_eq_ok.mp hstatus, not_not.mp (refuseIf_eq_ok.mp hattempt)⟩

/-- The fourth failure exhausts a position; an earlier one waits for its retry. -/
theorem failSell_eq_ok {attempt : Nat} {submitted : Bool}
    (h : control.failSell clock attempt position submitted = .ok control') :
    control.status = .sellPending ∧ attempt = control.sellAttemptCount ∧
      ((control.sellAttemptCount = MAXIMUM_SELL_ATTEMPTS ∧
          control' = { control with status := .exhausted }) ∨
        control.sellAttemptCount ≠ MAXIMUM_SELL_ATTEMPTS ∧
          ∃ retry, holdingDeadline clock position SELL_RETRY_DELAY_NS = .ok retry ∧
            control' = { control with retryPosition := some retry, status := .retryWait }) := by
  obtain ⟨hattempt, h⟩ := check_bind_eq_ok.mp h
  obtain ⟨hpending, hnumber⟩ := requireAttempt_eq_ok hattempt
  refine ⟨hpending, hnumber, ?_⟩
  split at h
  · rename_i hlast
    exact .inl ⟨hlast, (Except.ok.inj h).symm⟩
  · rename_i hearlier
    obtain ⟨retry, hretry, h⟩ := bind_eq_ok.mp h
    exact .inr ⟨hearlier, retry, hretry, (Except.ok.inj h).symm⟩

theorem fillSell_eq_ok {attempt : Nat} (h : control.fillSell attempt position = .ok control') :
    control.status = .sellPending ∧ attempt = control.sellAttemptCount ∧
      control' = { control with status := .closed } := by
  obtain ⟨hattempt, h⟩ := check_bind_eq_ok.mp h
  obtain ⟨hpending, hnumber⟩ := requireAttempt_eq_ok hattempt
  exact ⟨hpending, hnumber, (Except.ok.inj h).symm⟩

end CopyPositionControl

/-- **A deadline is a whole duration of chain time later.** -/
theorem holdingDeadline_time {clock : CompactTransactionClock} {position deadline : ChainPosition}
    {durationNs : Nat} (h : holdingDeadline clock position durationNs = .ok deadline) :
    ∃ start stop, clock.blockTimeForPosition position = .ok start ∧
      clock.blockTimeForPosition deadline = .ok stop ∧ start + durationNs ≤ stop := by
  obtain ⟨_, h⟩ := check_bind_eq_ok.mp h
  obtain ⟨time, htime, h⟩ := bind_eq_ok.mp h
  obtain ⟨r, s, _, hs, _, _, _, hle, _⟩ := CompactTransactionClock.firstNonempty_eq_ok h
  exact ⟨time, _, htime, CompactTransactionClock.blockTimeForPosition_eq_ok.mpr ⟨s, hs, rfl⟩, hle⟩

/-- **Later boundaries of the clock are not earlier in time.** -/
theorem blockTimeForPosition_mono {clock : CompactTransactionClock} {p q : ChainPosition}
    {s t : Nat} (hp : clock.blockTimeForPosition p = .ok s)
    (hq : clock.blockTimeForPosition q = .ok t) (hle : p.boundaryOrdinal ≤ q.boundaryOrdinal) :
    s ≤ t := by
  obtain ⟨i, hi, rfl⟩ := CompactTransactionClock.blockTimeForPosition_eq_ok.mp hp
  obtain ⟨j, hj, rfl⟩ := CompactTransactionClock.blockTimeForPosition_eq_ok.mp hq
  have hrows : i ≤ j := by
    by_contra hlt
    have hblocks := getD_strictMono clock.ordinals_sorted (not_le.mp hlt) hi.row_lt
    rw [hi.block, hj.block] at hblocks
    exact absurd (ChainPosition.boundaryOrdinal_lt_iff.mpr (.inl hblocks)) (not_lt.mpr hle)
  refine getD_mono clock.times_sorted hrows ?_
  rw [clock.times_length]
  exact hj.row_lt

end OnchainBacktest
