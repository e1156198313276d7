import OnchainBacktest.Engine.CopyMoves
import OnchainBacktest.Engine.CopyResults

/-!
# The positions of a copy run

No order of a copy run changes what its position is about: every operation of the executor leaves
the intent of the position as it is.  A run therefore holds each of its positions under the identity
of its own intent (`Keyed`), and publishes no two under one key.
-/

set_option autoImplicit false

namespace OnchainBacktest

open Checked

section Executor

variable [DomainDigest] {setup : CopySetup} {desk : CopyDesk} {state : CopyExecutionPosition}
  {attempt : CopyOrderAttempt} {handled : CopyHandled} {position : ChainPosition}

omit [DomainDigest] in
theorem copyCommit_intent {transaction : LedgerTransaction}
    {transition : Option AccountProvisioningTransition}
    (h : copyCommit desk state transaction transition = .ok handled) :
    handled.state.intent = state.intent := by
  obtain ⟨_, _, h⟩ := bind_eq_ok.mp h
  obtain ⟨_, _, h⟩ := bind_eq_ok.mp h
  cases transition with
  | none => exact Except.ok.inj h ▸ rfl
  | some transition => exact Except.ok.inj h ▸ rfl

theorem commitSettlement_intent {transaction : LedgerTransaction}
    {transition : Option AccountProvisioningTransition}
    (h : commitSettlement desk state attempt transaction transition = .ok handled) :
    handled.state.intent = state.intent := by
  obtain ⟨_, _, h⟩ := bind_eq_ok.mp h
  exact copyCommit_intent h

omit [DomainDigest] in
theorem settleAttempt_intent {successful : Bool}
    (h : settleAttempt setup desk state attempt successful = .ok handled) :
    handled.state.intent = state.intent := by
  obtain ⟨_, _, h⟩ := bind_eq_ok.mp h
  exact Except.ok.inj h ▸ rfl

theorem submitAttempt_intent {amounts : AssetAmounts}
    (h : submitAttempt setup desk state attempt amounts = .ok handled) :
    handled.state.intent = state.intent := by
  rw [submitAttempt] at h
  split at h
  · obtain ⟨_, _, h⟩ := bind_eq_ok.mp h
    obtain ⟨committed, hcommitted, h⟩ := bind_eq_ok.mp h
    rw [← copyCommit_intent hcommitted]
    exact Except.ok.inj h ▸ rfl
  · exact settleAttempt_intent h

/-- **An entry is about the intent it started with.** -/
theorem beginBuy_intent (h : beginBuy setup desk state = .ok handled) :
    handled.state.intent = state.intent := by
  obtain ⟨_, h⟩ := check_bind_eq_ok.mp h
  obtain ⟨_, h⟩ := check_bind_eq_ok.mp h
  obtain ⟨_, _, h⟩ := bind_eq_ok.mp h
  obtain ⟨_, _, h⟩ := bind_eq_ok.mp h
  obtain ⟨_, _, h⟩ := bind_eq_ok.mp h
  obtain ⟨_, _, h⟩ := bind_eq_ok.mp h
  obtain ⟨_, _, h⟩ := bind_eq_ok.mp h
  obtain ⟨_, _, h⟩ := bind_eq_ok.mp h
  obtain ⟨quoted, _, h⟩ := bind_eq_ok.mp h
  cases quoted with
  | error code => exact (settleAttempt_intent h).trans rfl
  | ok reference =>
    obtain ⟨_, h⟩ := check_bind_eq_ok.mp h
    exact (submitAttempt_intent h).trans rfl

/-- **An exit is about the intent its position started with.** -/
theorem beginSell_intent (h : beginSell setup desk state position = .ok handled) :
    handled.state.intent = state.intent := by
  obtain ⟨begun, _, h⟩ := bind_eq_ok.mp h
  obtain ⟨control, number⟩ := begun
  obtain ⟨_, _, h⟩ := bind_eq_ok.mp h
  obtain ⟨_, _, h⟩ := bind_eq_ok.mp h
  obtain ⟨_, _, h⟩ := bind_eq_ok.mp h
  obtain ⟨quoted, _, h⟩ := bind_eq_ok.mp h
  cases quoted with
  | error code => exact (settleAttempt_intent h).trans rfl
  | ok reference =>
    obtain ⟨_, h⟩ := check_bind_eq_ok.mp h
    exact (submitAttempt_intent h).trans rfl

theorem beginRequest_intent {isBuy : Bool}
    (h : beginRequest setup position desk state isBuy = .ok handled) :
    handled.state.intent = state.intent := by
  rw [beginRequest] at h
  split at h
  · exact beginBuy_intent h
  · exact beginSell_intent h

theorem landAttempt_intent {earlier : List CopyOrderAttempt}
    (h : landAttempt setup desk state earlier attempt position = .ok handled) :
    handled.state.intent = state.intent := by
  obtain ⟨_, h⟩ := check_bind_eq_ok.mp h
  cases hnetwork : attempt.network with
  | none =>
    rw [hnetwork] at h
    cases h
  | some network =>
    rw [hnetwork] at h
    obtain ⟨landing, _, h⟩ := bind_eq_ok.mp h
    obtain ⟨settlement, _, h⟩ := bind_eq_ok.mp h
    obtain ⟨committed, hcommitted, h⟩ := bind_eq_ok.mp h
    have hintent := commitSettlement_intent hcommitted
    cases landing with
    | rejected code landing => exact (settleAttempt_intent h).trans hintent
    | filled quote =>
      obtain ⟨settled, hsettled, h⟩ := bind_eq_ok.mp h
      obtain ⟨_, _, h⟩ := bind_eq_ok.mp h
      rw [← hintent, ← (settleAttempt_intent hsettled).trans rfl]
      exact Except.ok.inj h ▸ rfl

/-- **A landing is about the intent of the order that lands.** -/
theorem land_intent (h : land setup desk state position = .ok handled) :
    handled.state.intent = state.intent := by
  rw [land] at h
  split at h
  · cases h
  · exact landAttempt_intent h

end Executor

/-! ## Positions are kept under their own identities -/

/-- Every position is kept under the identity of its intent, which has no display prefix. -/
def Keyed (states : Dict ContentDigest CopyExecutionPosition) : Prop :=
  ∀ e ∈ states.entries, e.2.intent.roundtripId = e.1 ∧ e.1.prefixed = false

section Replay

variable [DomainDigest] {setup : CopySetup} {run : CopyRun}

/-- **A run keeps every position under its own identity.** -/
theorem keptByMoves_keyed : KeptByMoves setup fun positionId state =>
    state.intent.roundtripId = positionId ∧ positionId.prefixed = false where
  start := by
    intro intent ⟨_, _, _, _, _, _, hdecide⟩
    refine ⟨rfl, ?_⟩
    rw [(PumpfunCopyBuyStrategy.decide_eq_some hdecide).1]
    rfl
  evaluated := fun _ hkeyed _ => hkeyed
  begun := by
    intro positionId position desk state isBuy handled _ ⟨hid, hplain⟩ hbegin
    exact ⟨(congrArg CopyBuyIntent.roundtripId (beginRequest_intent hbegin)).trans hid, hplain⟩
  landed := by
    intro positionId position desk state handled _ ⟨hid, hplain⟩ hland
    exact ⟨(congrArg CopyBuyIntent.roundtripId (land_intent hland)).trans hid, hplain⟩

/-- **A run that completes has kept every position under its own identity.** -/
theorem keyed_replayCopy {rounds : Nat} {source : HistoricalEventSource}
    {positions : List CopyExecutionPosition}
    (h : replayCopy setup rounds source = .ok (some (run, positions))) : Keyed run.states :=
  (replayCopy_reachable h).1.positions keptByMoves_keyed

end Replay

end OnchainBacktest
