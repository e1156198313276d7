import OnchainBacktest.Reference.EngineContracts

/-!
# Where observations wait

An event that has a release waits for it until the run reaches the boundary.  It waits in the
scheduler, or, when the run is given a delivery schedule, in that: the merge then reads the next
delivery off the schedule, and checks it against the events the run has seen so far.

A run does not tell the two apart; it uses what they have in common (`ObservationFeed`).
-/

set_option autoImplicit false

namespace OnchainBacktest

namespace Reference

open Checked

variable {ε : Type}

/-- A delivered event and its row. -/
structure Observation (ε : Type) where
  event : ε
  eventRowId : Nat

/-- What a run asks of the place its observations wait in. -/
class ObservationFeed (ε : outParam Type) (φ : Type) where
  /-- The run has seen an event, with its row and its release. -/
  register : φ → ε → Nat → Option Nat → Except EngineFault φ
  pendingCount : φ → Nat
  popReady : φ → Nat → Except EngineFault (List (SchedulerKey × Observation ε) × φ)
  /-- The checks when the replay has ended with a number of events. -/
  finish : φ → Nat → Except EngineFault Unit
  /-- What is left in the scheduler. -/
  leftover : φ → Nat

/-- The key an observation is delivered under. -/
def observationKey [MarketEvent ε] (release : Nat) (event : ε) : SchedulerKey :=
  ⟨release, .observationDelivery, (envelope event).boundaryOrdinal,
    (envelope event).stableCausalId.hex⟩

/-! ## In the scheduler -/

def enqueueObservation [MarketEvent ε] (scheduler : CausalScheduler (Observation ε)) (event : ε)
    (eventRowIndex : Nat) :
    Option Nat → Except EngineFault (CausalScheduler (Observation ε))
  | none => .ok scheduler
  | some release => scheduler.enqueue (observationKey release event) ⟨event, eventRowIndex⟩

instance [MarketEvent ε] : ObservationFeed ε (CausalScheduler (Observation ε)) where
  register := enqueueObservation
  pendingCount := KeyedQueue.length
  popReady scheduler boundary := .ok (scheduler.popReady boundary .observationDelivery)
  finish _ _ := .ok ()
  leftover := KeyedQueue.length

/-! ## In a delivery schedule -/

/-- One materialized release of an event row. -/
structure ObservationDelivery where
  releaseBoundaryOrdinal : Nat
  eventRowIndex : Nat
  deriving DecidableEq

structure ObservationDeliverySource where
  inputEventCount : Nat
  deliveryCount : Nat
  outsideHorizonCount : Nat
  deliveries : List ObservationDelivery

/-- `_MaterializedObservationMerge`.  `next` is the delivery that was read last, `upcoming` what
the schedule still has. -/
structure MaterializedObservationMerge (ε : Type) where
  source : ObservationDeliverySource
  eventAt : Nat → Except Fault ε
  timeline : BoundaryTimeline
  observationSlots : Nat
  upcoming : List ObservationDelivery
  next : Option ObservationDelivery
  seenEventCount : Nat
  pendingCount : Nat
  previousKey : Option SchedulerKey
  consumed : Nat
  outside : Nat

namespace MaterializedObservationMerge

/-- `_advance`: read the next delivery. -/
def advance (merge : MaterializedObservationMerge ε) :
    Except EngineFault (MaterializedObservationMerge ε) :=
  match merge.upcoming with
  | [] => .ok { merge with next := none }
  | delivery :: upcoming => do
    refuseIf (merge.source.deliveryCount ≤ merge.consumed)
      (.engineInvariant "materialized delivery stream exceeds declared count")
    refuseIf (merge.source.inputEventCount ≤ delivery.eventRowIndex)
      (.engineInvariant "materialized delivery event row is out of bounds")
    .ok { merge with next := some delivery, upcoming := upcoming }

/-- The constructor of a merge. -/
def make (source : ObservationDeliverySource) (eventAt : Nat → Except Fault ε)
    (timeline : BoundaryTimeline) (observationSlots : Nat) :
    Except EngineFault (MaterializedObservationMerge ε) := do
  refuseIf (source.inputEventCount = 0)
    (.engineInvariant "materialized delivery input count must be positive")
  refuseIf (source.deliveryCount + source.outsideHorizonCount ≠ source.inputEventCount)
    (.engineInvariant "materialized delivery counts do not cover the replay")
  advance ⟨source, eventAt, timeline, observationSlots, source.deliveries, none, 0, 0, none, 0, 0⟩

def register (merge : MaterializedObservationMerge ε) (eventRowIndex : Nat)
    (expectedRelease : Option Nat) : Except EngineFault (MaterializedObservationMerge ε) := do
  refuseIf (eventRowIndex ≠ merge.seenEventCount)
    (.engineInvariant "historical replay row indexes are not contiguous")
  refuseIf (merge.source.inputEventCount ≤ eventRowIndex)
    (.engineInvariant "historical replay exceeds materialized input count")
  let merge := { merge with seenEventCount := merge.seenEventCount + 1 }
  match expectedRelease with
  | none => .ok { merge with outside := merge.outside + 1 }
  | some _ => .ok { merge with pendingCount := merge.pendingCount + 1 }

/-- What a delivery has to be released as: the event of its row, under the key of its release. -/
def expected [MarketEvent ε] (merge : MaterializedObservationMerge ε) (boundary : Nat)
    (delivery : ObservationDelivery) :
    Except EngineFault (SchedulerKey × Observation ε) := do
  refuseIf (delivery.releaseBoundaryOrdinal ≠ boundary)
    (.engineInvariant "materialized delivery was not released on its boundary")
  let _ ← merge.timeline.index delivery.releaseBoundaryOrdinal
  refuseIf (merge.seenEventCount ≤ delivery.eventRowIndex)
    (.engineInvariant "materialized delivery references an unseen historical event row")
  let event ← raising (merge.eventAt delivery.eventRowIndex)
  let expectedRelease ← merge.timeline.observationRelease (envelope event).boundaryOrdinal
    merge.observationSlots
  refuseIf (expectedRelease = none)
    (.engineInvariant "materialized delivery references an outside-horizon event row")
  refuseIf (some delivery.releaseBoundaryOrdinal ≠ expectedRelease)
    (.engineInvariant "materialized delivery differs from resolved latency")
  .ok (observationKey delivery.releaseBoundaryOrdinal event, ⟨event, delivery.eventRowIndex⟩)

/-- Release the next delivery. -/
def release [MarketEvent ε] (merge : MaterializedObservationMerge ε) (boundary : Nat)
    (delivery : ObservationDelivery) :
    Except EngineFault ((SchedulerKey × Observation ε) × MaterializedObservationMerge ε) := do
  let item ← merge.expected boundary delivery
  refuseIf (∃ previous ∈ merge.previousKey, item.1 ≤ previous)
    (.engineInvariant "materialized deliveries violate scheduler ordering")
  refuseIf (merge.pendingCount = 0)
    (.engineInvariant "materialized delivery duplicates an event row")
  let merge ← advance
    { merge with
      previousKey := some item.1
      pendingCount := merge.pendingCount - 1
      consumed := merge.consumed + 1 }
  .ok (item, merge)

/-- The loop of `pop_ready`.  Each pass uses up one delivery, so the deliveries bound it. -/
def popLoop [MarketEvent ε] (boundary : Nat) :
    Nat → List (SchedulerKey × Observation ε) → MaterializedObservationMerge ε →
      Except EngineFault
        (List (SchedulerKey × Observation ε) × MaterializedObservationMerge ε)
  | 0, ready, merge => .ok (ready, merge)
  | fuel + 1, ready, merge =>
    match merge.next with
    | none => .ok (ready, merge)
    | some delivery =>
      if delivery.releaseBoundaryOrdinal ≤ boundary then do
        let (item, merge) ← merge.release boundary delivery
        popLoop boundary fuel (ready ++ [item]) merge
      else .ok (ready, merge)

def popReady [MarketEvent ε] (merge : MaterializedObservationMerge ε) (boundary : Nat) :
    Except EngineFault (List (SchedulerKey × Observation ε) × MaterializedObservationMerge ε) :=
  popLoop boundary (merge.upcoming.length + 1) [] merge

def finish (merge : MaterializedObservationMerge ε) (historicalEventCount : Nat) :
    Except EngineFault Unit := do
  refuseIf (historicalEventCount ≠ merge.source.inputEventCount)
    (.engineInvariant "materialized delivery input count differs from replay")
  refuseIf (merge.next ≠ none)
    (.engineInvariant "materialized delivery remains beyond the replay horizon")
  refuseIf (merge.consumed ≠ merge.source.deliveryCount)
    (.engineInvariant "materialized delivery stream ended at the wrong count")
  refuseIf (merge.outside ≠ merge.source.outsideHorizonCount)
    (.engineInvariant "materialized outside-horizon count differs from replay")
  refuseIf (merge.pendingCount ≠ 0)
    (.engineInvariant "materialized delivery stream omitted replay event rows")

end MaterializedObservationMerge

instance [MarketEvent ε] : ObservationFeed ε (MaterializedObservationMerge ε) where
  register merge _ eventRowIndex release := merge.register eventRowIndex release
  pendingCount := MaterializedObservationMerge.pendingCount
  popReady := MaterializedObservationMerge.popReady
  finish := MaterializedObservationMerge.finish
  leftover _ := 0

end Reference

end OnchainBacktest
