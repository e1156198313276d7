import Mathlib.Order.Lattice
import Mathlib.Data.Prod.Lex
import OnchainBacktest.Lib.KeyedQueue
import OnchainBacktest.Reference.MarketState

/-!
# The causal scheduler

A queue of items under scheduler keys.  A key says at which boundary and in which phase its item is
released, which boundary it comes from, and ends with the stable causal identity of what it is
about; keys are ordered in that order.
-/

set_option autoImplicit false

namespace OnchainBacktest

namespace Reference

open Checked

inductive SchedulerPhase
  | historicalReferenceApply
  | simulationStateReconcile
  | observationDelivery
  | strategyCallback
  | riskAndOrderAcceptance
  | venueExecutionAndLedgerCommit
  | strategyExecutionNotification
  | checkpoint
  deriving DecidableEq, Repr

namespace SchedulerPhase

/-- The priority of a phase. -/
def value : SchedulerPhase → Nat
  | historicalReferenceApply => 10
  | simulationStateReconcile => 20
  | observationDelivery => 30
  | strategyCallback => 40
  | riskAndOrderAcceptance => 50
  | venueExecutionAndLedgerCommit => 60
  | strategyExecutionNotification => 70
  | checkpoint => 80

theorem value_injective : Function.Injective value := by
  intro a b h
  cases a <;> cases b <;> first | rfl | cases h

end SchedulerPhase

structure SchedulerKey where
  releaseBoundaryOrdinal : Nat
  phasePriority : SchedulerPhase
  sourceOrCreatorBoundaryOrdinal : Nat
  stableCausalIdHex : Fin (2 ^ 256)
  deriving DecidableEq

namespace SchedulerKey

/-- The fields of a key in the order keys are compared by. -/
def fields (key : SchedulerKey) : Nat ×ₗ Nat ×ₗ Nat ×ₗ Nat :=
  toLex (key.releaseBoundaryOrdinal, toLex (key.phasePriority.value,
    toLex (key.sourceOrCreatorBoundaryOrdinal, key.stableCausalIdHex.val)))

theorem fields_injective : Function.Injective fields := by
  intro a b h
  obtain ⟨release, phase, source, causal⟩ := a
  obtain ⟨release', phase', source', causal'⟩ := b
  obtain ⟨rfl, h⟩ := Prod.mk.inj (toLex_inj.mp h)
  obtain ⟨hphase, h⟩ := Prod.mk.inj (toLex_inj.mp h)
  obtain ⟨rfl, hcausal⟩ := Prod.mk.inj (toLex_inj.mp h)
  obtain rfl := SchedulerPhase.value_injective hphase
  obtain rfl := Fin.val_injective hcausal
  rfl

instance : LinearOrder SchedulerKey := LinearOrder.lift' fields fields_injective

theorem lt_iff {a b : SchedulerKey} : a < b ↔ a.fields < b.fields := Iff.rfl

theorem le_iff {a b : SchedulerKey} : a ≤ b ↔ a.fields ≤ b.fields := Iff.rfl

/-- What a key is compared with a limit by. -/
def releasePrefix (key : SchedulerKey) : Nat ×ₗ Nat :=
  toLex (key.releaseBoundaryOrdinal, key.phasePriority.value)

/-- A key that is due when everything up to a boundary and a phase is. -/
def due (boundary : Nat) (throughPhase : SchedulerPhase) (key : SchedulerKey) : Bool :=
  key.releasePrefix ≤ toLex (boundary, throughPhase.value)

theorem due_iff {boundary : Nat} {throughPhase : SchedulerPhase} {key : SchedulerKey} :
    key.due boundary throughPhase = true ↔ key.releaseBoundaryOrdinal < boundary ∨
      key.releaseBoundaryOrdinal = boundary ∧ key.phasePriority.value ≤ throughPhase.value := by
  rw [due, decide_eq_true_eq, releasePrefix, Prod.Lex.toLex_le_toLex]

/-- What is due with a key is due with every key below it. -/
theorem due_of_le {boundary : Nat} {throughPhase : SchedulerPhase} {a b : SchedulerKey}
    (h : a ≤ b) (hb : b.due boundary throughPhase = true) :
    a.due boundary throughPhase = true := by
  rw [le_iff, fields, fields, Prod.Lex.toLex_le_toLex, Prod.Lex.toLex_le_toLex] at h
  rw [due_iff] at hb ⊢
  omega

end SchedulerKey

/-- A queue of items under scheduler keys. -/
abbrev CausalScheduler (τ : Type) := KeyedQueue SchedulerKey τ

namespace CausalScheduler

variable {τ : Type}

def enqueue (scheduler : CausalScheduler τ) (key : SchedulerKey) (payload : τ) :
    Except EngineFault (CausalScheduler τ) :=
  match KeyedQueue.enqueue scheduler key payload with
  | none => .error .schedulerKeyCollision
  | some scheduler => .ok scheduler

/-- The items released up to a boundary and a phase of it, in the order of their keys, and what is
left. -/
def popReady (scheduler : CausalScheduler τ) (boundary : Nat) (throughPhase : SchedulerPhase) :
    List (SchedulerKey × τ) × CausalScheduler τ :=
  KeyedQueue.popThrough scheduler (SchedulerKey.due boundary throughPhase)

variable {scheduler scheduler' : CausalScheduler τ} {boundary : Nat} {throughPhase : SchedulerPhase}
  {key : SchedulerKey} {payload : τ} {e : SchedulerKey × τ}

theorem mem_popReady_fst : e ∈ (scheduler.popReady boundary throughPhase).1 ↔
    e ∈ scheduler.items ∧ e.1.due boundary throughPhase = true :=
  KeyedQueue.mem_popThrough_fst fun _ _ => SchedulerKey.due_of_le

theorem mem_popReady_snd : e ∈ (scheduler.popReady boundary throughPhase).2.items ↔
    e ∈ scheduler.items ∧ e.1.due boundary throughPhase = false :=
  KeyedQueue.mem_popThrough_snd fun _ _ => SchedulerKey.due_of_le

theorem enqueue_eq_ok (h : enqueue scheduler key payload = .ok scheduler') :
    KeyedQueue.enqueue scheduler key payload = some scheduler' := by
  rw [enqueue] at h
  split at h
  · cases h
  · rename_i found hfound
    rw [hfound, Except.ok.inj h]

theorem mem_enqueue (h : enqueue scheduler key payload = .ok scheduler') :
    e ∈ scheduler'.items ↔ e = (key, payload) ∨ e ∈ scheduler.items :=
  (KeyedQueue.enqueue_eq_some (enqueue_eq_ok h)).2 e

end CausalScheduler

end Reference

end OnchainBacktest
