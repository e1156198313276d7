import OnchainBacktest.Lib.Dict
import OnchainBacktest.Domain.Execution
import OnchainBacktest.Reference.Timeline

/-!
# The three states of the market

What the history says of the pools, what the strategy has been shown of them, and what the engine
executes its own orders against.  The historical state changes by whole transaction groups, the
observed state by single events, and the venue takes the historical pools over after each group.

The engine reads two things of an event (`MarketEvent`): its envelope, and what it says as an event
of its class.
-/

set_option autoImplicit false

namespace OnchainBacktest

namespace Reference

open Checked

/-- An exception of a domain object or a plugin, as one of the engine's run. -/
def raising {α : Type} (x : Except Fault α) : Except EngineFault α := x.mapError .raised

@[simp] theorem raising_ok {α : Type} (a : α) : raising (.ok a) = .ok a := rfl

theorem raising_eq_ok {α : Type} {x : Except Fault α} {a : α} :
    raising x = .ok a ↔ x = .ok a := by
  cases x with
  | error e => exact iff_of_false nofun nofun
  | ok b =>
    rw [raising_ok]
    exact ⟨fun h => congrArg _ (Except.ok.inj h), fun h => congrArg _ (Except.ok.inj h)⟩

/-- A pool as it stands after the boundary it last changed at. -/
structure PoolSnapshot where
  poolId : PoolId
  assetAId : AssetId
  assetBId : AssetId
  reserveAAtomic : Nat
  reserveBAtomic : Nat
  boundaryOrdinal : Nat
  assets_ne : assetAId ≠ assetBId

/-- What a swap says of its pool: the two assets, and the reserves after it when it has them. -/
structure PoolUpdate where
  poolId : PoolId
  assetAId : AssetId
  assetBId : AssetId
  reservesAfter : Option (Nat × Nat)
  assets_ne : assetAId ≠ assetBId

/-- The snapshot of an update with reserves. -/
def PoolUpdate.snapshot (update : PoolUpdate) (boundaryOrdinal : Nat) : Option PoolSnapshot :=
  update.reservesAfter.map fun reserves =>
    ⟨update.poolId, update.assetAId, update.assetBId, reserves.1, reserves.2, boundaryOrdinal,
      update.assets_ne⟩

/-- An event by its class: a token creation with its asset, a swap with its pool view (a payload
that is no pool view raises), or any other. -/
inductive EventView
  | tokenCreation (assetId : AssetId)
  | swap (pool : Except Fault PoolUpdate)
  | other

/-- What the engine reads of an event. -/
class MarketEvent (ε : Type) where
  envelope : ε → EventEnvelope
  view : ε → EventView

export MarketEvent (envelope view)

/-- An event as far as the engine reads it. -/
structure PlainEvent where
  envelope : EventEnvelope
  view : EventView

instance : MarketEvent PlainEvent := ⟨PlainEvent.envelope, PlainEvent.view⟩

abbrev Pools := Dict PoolId PoolSnapshot

/-- Put the snapshot of an update. -/
def PoolUpdate.applyTo (update : PoolUpdate) (boundaryOrdinal : Nat) (pools : Pools) : Pools :=
  match update.snapshot boundaryOrdinal with
  | none => pools
  | some snapshot => pools.set update.poolId snapshot

section States

variable {ε : Type} [MarketEvent ε]

/-- One event of a group, on the pools. -/
def applyEvent (boundaryOrdinal : Nat) (pools : Pools) (event : ε) : Except EngineFault Pools :=
  match view event with
  | .swap pool => do
    let update ← raising pool
    .ok (update.applyTo boundaryOrdinal pools)
  | _ => .ok pools

/-- State changed by committed historical groups only. -/
structure HistoricalReferenceState where
  pools : Pools

def HistoricalReferenceState.pool (state : HistoricalReferenceState) (poolId : PoolId) :
    Option PoolSnapshot := state.pools.get? poolId

/-- The fidelities a group is applied under. -/
def EXACT_FIDELITIES : List OrderingFidelity := [.transactionExact, .instructionExact]

def HistoricalReferenceState.applyGroup (state : HistoricalReferenceState) (events : List ε) :
    Except EngineFault HistoricalReferenceState := do
  match events with
  | [] => .error (.historicalState "historical group must not be empty")
  | first :: _ =>
    let boundary := (envelope first).boundaryOrdinal
    refuseIf (∃ event ∈ events, (envelope event).boundaryOrdinal ≠ boundary ∨
        (envelope event).transactionGroupId ≠ (envelope first).transactionGroupId)
      (.historicalState "historical group contains mixed boundaries or identities")
    refuseIf (∃ event ∈ events, (envelope event).orderingFidelity ∉ EXACT_FIDELITIES)
      (.historicalState "historical group ordering is ambiguous and has no invariant reducer")
    let pools ← events.foldlM (applyEvent boundary) state.pools
    .ok ⟨pools⟩

/-- Only information already delivered to the strategy. -/
structure ObservedState where
  pools : Pools
  assets : List AssetId

namespace ObservedState

def apply (state : ObservedState) (event : ε) : Except EngineFault ObservedState :=
  match view event with
  | .tokenCreation assetId => .ok { state with assets := state.assets.insert assetId }
  | _ => do
    let pools ← applyEvent (envelope event).boundaryOrdinal state.pools event
    .ok { state with pools := pools }

def pool (state : ObservedState) (poolId : PoolId) : Option PoolSnapshot :=
  state.pools.get? poolId

def knowsAsset (state : ObservedState) (assetId : AssetId) : Bool :=
  state.assets.contains assetId

end ObservedState

/-- Own-order state, apart from the historical reference. -/
structure SimulationVenueState where
  mode : ExecutionMode
  pools : Pools

namespace SimulationVenueState

def pool (state : SimulationVenueState) (poolId : PoolId) : Option PoolSnapshot :=
  state.pools.get? poolId

/-- The pools the swaps of a group touch. -/
def touched (events : List ε) : Except EngineFault (List PoolId) :=
  events.foldlM (fun touched event =>
    match view event with
    | .swap pool => do
      let update ← raising pool
      .ok (touched.insert update.poolId)
    | _ => .ok touched) []

/-- Take the historical pool over. -/
def reconcilePool (historical : HistoricalReferenceState) (state : SimulationVenueState)
    (poolId : PoolId) : Except EngineFault SimulationVenueState :=
  match historical.pool poolId with
  | none => .ok state
  | some historicalPool =>
    match state.mode with
    | .exogenousReplay | .shadowStateReplay =>
      .ok { state with pools := state.pools.set poolId historicalPool }
    | _ => .error (.historicalState
      "conditional protocol replay requires a protocol-specific fork reducer")

def reconcileGroup (state : SimulationVenueState) (events : List ε)
    (historical : HistoricalReferenceState) : Except EngineFault SimulationVenueState := do
  let poolIds ← touched events
  poolIds.foldlM (reconcilePool historical) state

/-- Validate the transition of an own order. -/
def previewTransition (state : SimulationVenueState) (transition : VenueTransition) :
    Except EngineFault Pools :=
  match state.pools.get? transition.poolId with
  | none => .error (.historicalState "venue transition references an unknown pool")
  | some current =>
    if state.mode = .exogenousReplay then .ok state.pools
    else .ok (state.pools.set transition.poolId
      { current with
        reserveAAtomic := transition.reserveAAfterAtomic
        reserveBAtomic := transition.reserveBAfterAtomic })

def commit (state : SimulationVenueState) (candidate : Pools) : SimulationVenueState :=
  { state with pools := candidate }

end SimulationVenueState

end States

end Reference

end OnchainBacktest
