import OnchainBacktest.Engine.BoundaryBatches
import OnchainBacktest.Engine.TransactionClock
import OnchainBacktest.Plugins.PumpGroups

/-!
# Replay packs

The columns the columnar engine reads, row by row, and what it makes of them: the Pump states of a
window are decoded at once (`decodeBatchStates`), and the rows of a group are then applied to the
venues, each with its decoded state (`applyHistoricalGroup`).

A pack is one the reader has opened, so its offsets increase from zero to the number of rows and its
codes are in the dictionaries; a code is a number below the length of its dictionary here.

Inside a window the decoded state of a row is what decoding that row alone gives (`item_eq`).
-/

set_option autoImplicit false

namespace OnchainBacktest

open Checked

/-- How a run of the columnar engine ends without a result. -/
inductive Halt
  /-- An exception of the source. -/
  | raised (fault : Fault)
  /-- The `IndexError` of an array. -/
  | index
  /-- A loop that was given too few rounds. -/
  | rounds
  deriving DecidableEq, Repr

/-- What a function of the source gives to the run. -/
def raising {α : Type} (result : Except Fault α) : Except Halt α := result.mapError Halt.raised

/-- `array[index]`: a negative index counts from the end. -/
def arrayItem {α : Type} (items : List α) (index : Int) : Except Halt α :=
  match items[(if 0 ≤ index then index else items.length + index).toNat]? with
  | some item => if -items.length ≤ index then .ok item else .error .index
  | none => .error .index

/-! ## Rows -/

/-- The typed payload of a row, with its codes. -/
inductive RowPayload (assets accounts venues : Nat)
  | block
  | tokenLaunch (venueCode : Fin venues) (assetCode quoteAssetCode : Fin assets)
      (developerCode creationUserCode : Fin accounts)
  | venueTrade (venueCode : Fin venues) (soldAssetCode boughtAssetCode : Fin assets)
  | venueLifecycle (venueCode : Fin venues) (lifecycleKind : VenueLifecycleKind)
  deriving DecidableEq

/-- One row of the envelope columns. -/
structure ReplayRow (assets accounts venues : Nat) where
  boundaryOrdinal : Nat
  blockOrdinal : Nat
  transactionIndex : Int
  eventIndex : Nat
  eventIndexValid : Bool
  orderingFidelity : OrderingFidelity
  canonicalEventId : ContentDigest
  stableCausalId : ContentDigest
  transactionGroupId : ContentDigest
  protocolCode : Nat
  protocolVersionCode : Nat
  protocolPayloadSchemaCode : Nat
  protocolPayload : List UInt8
  payload : RowPayload assets accounts venues
  deriving DecidableEq

/-- An opened pack. -/
structure ReplayPack where
  networkId : NetworkId
  positionSchemaId : PositionSchemaId
  decisionRange : BlockRange
  transactionClock : CompactTransactionClock
  assets : List AssetId
  accounts : List AccountId
  venues : List VenueId
  protocols : List String
  protocolVersions : List String
  protocolPayloadSchemas : List String
  rows : List (ReplayRow assets.length accounts.length venues.length)
  boundaryOffsets : List Nat
  groupOffsets : List Nat
  boundaryOrdinals : List Nat
  offsets_first : boundaryOffsets.head? = some 0
  offsets_last : boundaryOffsets.getLast? = some rows.length
  offsets_sorted : boundaryOffsets.Pairwise (· < ·)
  ordinals_length : boundaryOrdinals.length + 1 = boundaryOffsets.length
  ordinals_sorted : boundaryOrdinals.Pairwise (· < ·)

/-- `dictionary_code`: the values of a dictionary are strictly sorted, so a value has one code. -/
def dictionaryCode (values : List String) (value : String) : Option Nat := values.idxOf? value

namespace ReplayPack

variable (pack : ReplayPack)

abbrev Row : Type := ReplayRow pack.assets.length pack.accounts.length pack.venues.length

def eventCount : Nat := pack.rows.length

def groupCount : Nat := pack.groupOffsets.length - 1

def boundaryCount : Nat := pack.boundaryOffsets.length - 1

/-- The columns at a row. -/
def row (index : Nat) : Except Halt pack.Row := arrayItem pack.rows index

/-- `dictionary_code("protocols", "pumpfun")`. -/
def pumpProtocolCode : Option Nat := dictionaryCode pack.protocols PUMPFUN_PROTOCOL_NAME

end ReplayPack

/-! ## Decoding a window -/

/-- `validate_primitive_launch_state`. -/
def validatePrimitiveLaunchState (state : PumpPrimitiveState) : Except Fault Unit := do
  let unpacked ← stateFromPrimitive state
  requireEligibleLaunchState unpacked

/-- `validate_primitive_lifecycle_state`. -/
def validatePrimitiveLifecycleState (state : PumpPrimitiveState)
    (lifecycleKind : VenueLifecycleKind) : Except Fault Unit :=
  match expectedLifecycle lifecycleKind with
  | none => .error (.protocolContract .unknownLifecycle)
  | some expected => do
    let unpacked ← stateFromPrimitive state
    refuseIf (unpacked.lifecycle ≠ expected) (.protocolContract .unknownLifecycle)

/-- The check a decoded state has to pass for the kind of its row. -/
def validateRowState {assets accounts venues : Nat} (payload : RowPayload assets accounts venues)
    (state : PumpPrimitiveState) : Except Fault Unit :=
  match payload with
  | .tokenLaunch _ _ _ _ _ => validatePrimitiveLaunchState state
  | .venueLifecycle _ lifecycleKind => validatePrimitiveLifecycleState state lifecycleKind
  | .block => .ok ()
  | .venueTrade _ _ _ => .ok ()

/-- The state of one row; rows of other protocols and blocks have none. -/
def decodeRow {assets accounts venues : Nat} (pumpProtocolCode : Option Nat)
    (row : ReplayRow assets accounts venues) : Except Fault (Option PumpPrimitiveState) :=
  if pumpProtocolCode ≠ some row.protocolCode ∨ row.payload = .block then .ok none
  else do
    let state ← decodePrimitiveStatePayload row.protocolPayload
    validateRowState row.payload state
    .ok (some state)

/-- The decoded states of a window of rows; `none` where `pump_valid` is false. -/
structure BatchStates where
  start : Nat
  stop : Nat
  states : List (Option PumpPrimitiveState)
  deriving DecidableEq

/-- The state of a row, looked up in a window. -/
def BatchStates.item (decoded : BatchStates) (row : Nat) :
    Except Halt (Option PumpPrimitiveState) :=
  arrayItem decoded.states ((row : Int) - decoded.start)

namespace ReplayPack

variable (pack : ReplayPack)

/-- The state of a row, decoded on its own. -/
def rowState (index : Nat) : Except Halt (Option PumpPrimitiveState) := do
  let row ← pack.row index
  raising (decodeRow pack.pumpProtocolCode row)

/-- `_decode_batch_states`. -/
def decodeBatchStates (start stop : Nat) : Except Halt BatchStates := do
  let states ← (Tiles.indices (start, stop)).mapM pack.rowState
  .ok ⟨start, stop, states⟩

end ReplayPack

/-! ## Applying a group -/

/-- The curve of one venue. -/
structure VenueSlot (assets : Nat) where
  assetCode : Fin assets
  quoteAssetCode : Fin assets
  current : PumpPrimitiveState
  lastActive : Option PumpPrimitiveState
  lastActiveEffectiveAtUnixS : Option Nat
  deriving DecidableEq

namespace ReplayPack

variable (pack : ReplayPack)

/-- `_VenueArena`: the venues that exist, by their code. -/
abbrev VenueArena : Type := Dict (Fin pack.venues.length) (VenueSlot pack.assets.length)

/-- A launch with the codes of its venue and its developer. -/
structure Launch where
  target : LaunchTarget
  venueCode : Fin pack.venues.length
  developerCode : Fin pack.accounts.length
  deriving DecidableEq

/-- The venues after some rows of a group, and the launches among these rows. -/
structure Applied where
  venues : pack.VenueArena
  launches : List pack.Launch
  deriving DecidableEq

variable {pack} (effectiveAtUnixS : Nat) (applied : pack.Applied) (row : pack.Row)
  (state : PumpPrimitiveState)

/-- A launch opens its venue and is a target. -/
def applyLaunchRow (venueCode : Fin pack.venues.length)
    (assetCode quoteAssetCode : Fin pack.assets.length)
    (developerCode creationUserCode : Fin pack.accounts.length) : Except Fault pack.Applied := do
  refuseIf (applied.venues.get? venueCode ≠ none)
    (.optimizedUnsupported "Pump venue was launched twice")
  let position ← ChainPosition.make pack.networkId pack.positionSchemaId row.blockOrdinal
    row.transactionIndex (some row.eventIndex)
  let target : LaunchTarget :=
    { targetEventId := row.canonicalEventId
      position := position
      assetId := pack.assets.get assetCode
      developerId := pack.accounts.get developerCode
      creationUserId := pack.accounts.get creationUserCode
      venueId := pack.venues.get venueCode
      quoteAssetId := pack.assets.get quoteAssetCode }
  .ok
    { venues := applied.venues.set venueCode
        ⟨assetCode, quoteAssetCode, state, some state, some effectiveAtUnixS⟩
      launches := applied.launches ++ [⟨target, venueCode, developerCode⟩] }

/-- A venue that has to exist. -/
def requireSlot (venueCode : Fin pack.venues.length) (message : String) :
    Except Fault (VenueSlot pack.assets.length) :=
  match applied.venues.get? venueCode with
  | some slot => .ok slot
  | none => .error (.optimizedUnsupported message)

/-- A trade moves its venue; an active state is remembered with its time. -/
def applyTradeRow (venueCode : Fin pack.venues.length)
    (soldAssetCode boughtAssetCode : Fin pack.assets.length) : Except Fault pack.Applied := do
  let slot ← requireSlot applied venueCode "trade references an unknown Pump venue"
  refuseIf (¬ (soldAssetCode = slot.assetCode ∧ boughtAssetCode = slot.quoteAssetCode ∨
      soldAssetCode = slot.quoteAssetCode ∧ boughtAssetCode = slot.assetCode))
    (.optimizedUnsupported "Pump trade assets differ from venue identity")
  let active : Bool := primitiveLifecycleCode .active = some state.lifecycleCode
  .ok { applied with
    venues := applied.venues.set venueCode
      { slot with
        current := state
        lastActive := if active then some state else slot.lastActive
        lastActiveEffectiveAtUnixS :=
          if active then some effectiveAtUnixS else slot.lastActiveEffectiveAtUnixS } }

/-- A lifecycle event moves its venue. -/
def applyLifecycleRow (venueCode : Fin pack.venues.length) : Except Fault pack.Applied := do
  let slot ← requireSlot applied venueCode "lifecycle references an unknown Pump venue"
  .ok { applied with venues := applied.venues.set venueCode { slot with current := state } }

/-- One row that has a state. -/
def applyPumpRow : Except Fault pack.Applied :=
  match row.payload with
  | .tokenLaunch venueCode assetCode quoteAssetCode developerCode creationUserCode =>
    applyLaunchRow effectiveAtUnixS applied row state venueCode assetCode quoteAssetCode
      developerCode creationUserCode
  | .venueTrade venueCode soldAssetCode boughtAssetCode =>
    applyTradeRow effectiveAtUnixS applied state venueCode soldAssetCode boughtAssetCode
  | .venueLifecycle venueCode _ => applyLifecycleRow applied state venueCode
  | .block => .error (.optimizedUnsupported "Pump event kind is unsupported")

variable (pack)

/-- One row of a group, with the states as they are looked up. -/
def applyRow (states : Nat → Except Halt (Option PumpPrimitiveState)) (index : Nat) :
    Except Halt pack.Applied := do
  match ← states index with
  | none => .ok applied
  | some state => do
    let row ← pack.row index
    raising (applyPumpRow effectiveAtUnixS applied row state)

/-- `_apply_historical_group`. -/
def applyHistoricalGroup (states : Nat → Except Halt (Option PumpPrimitiveState))
    (venues : pack.VenueArena) (rowStart rowStop : Nat) : Except Halt pack.Applied :=
  (Tiles.indices (rowStart, rowStop)).foldlM
    (fun applied => pack.applyRow effectiveAtUnixS applied states) ⟨venues, []⟩

end ReplayPack

/-! ## Looking a row up in its window -/

section Windows

variable {pack : ReplayPack}

theorem arrayItem_natCast {α : Type} (items : List α) (index : Nat) {item : α}
    (h : items[index]? = some item) : arrayItem items (index : Int) = .ok item := by
  have hlower : -(items.length : Int) ≤ index := by omega
  rw [arrayItem, if_pos (by omega), Int.toNat_natCast, h]
  simp [hlower]

/-- **A window answers for its rows as the rows themselves do.** -/
theorem item_eq {start stop : Nat} {decoded : BatchStates}
    (h : pack.decodeBatchStates start stop = .ok decoded) {row : Nat} (hstart : start ≤ row)
    (hstop : row < stop) : decoded.item row = pack.rowState row := by
  obtain ⟨states, hstates, h⟩ := bind_eq_ok.mp h
  obtain rfl := Except.ok.inj h
  have hindex : (Tiles.indices (start, stop))[row - start]? = some row := by
    rw [Tiles.indices, List.getElem?_range' (by dsimp only; omega)]
    simp only [Option.some.injEq]
    omega
  obtain ⟨hlt, hget⟩ := List.getElem?_eq_some_iff.mp hindex
  have hall := mapM_eq_ok hstates
  have hbound : row - start < states.length := hall.length_eq ▸ hlt
  have hrow : pack.rowState row = .ok states[row - start] := by
    have hpair := (List.forall₂_iff_get.mp hall).2 (row - start) hlt hbound
    rw [List.get_eq_getElem, hget] at hpair
    exact hpair
  have hlocal : ((row : Int) - start) = ((row - start : Nat) : Int) := by omega
  rw [hrow, BatchStates.item]
  dsimp only
  rw [hlocal]
  exact arrayItem_natCast _ _ (List.getElem?_eq_getElem _)

/-- A group is applied alike with both ways to look a row up. -/
theorem applyHistoricalGroup_congr {start stop : Nat} {decoded : BatchStates}
    (h : pack.decodeBatchStates start stop = .ok decoded) {rowStart rowStop : Nat}
    (hstart : start ≤ rowStart) (hstop : rowStop ≤ stop) (effectiveAtUnixS : Nat)
    (venues : pack.VenueArena) :
    pack.applyHistoricalGroup effectiveAtUnixS decoded.item venues rowStart rowStop =
      pack.applyHistoricalGroup effectiveAtUnixS pack.rowState venues rowStart rowStop := by
  rw [ReplayPack.applyHistoricalGroup, ReplayPack.applyHistoricalGroup]
  refine foldlM_congr (fun row hrow applied => ?_) _
  obtain ⟨hfirst, hlast⟩ := Tiles.mem_indices.mp hrow
  rw [ReplayPack.applyRow, ReplayPack.applyRow, item_eq h (hstart.trans hfirst)
    (Nat.lt_of_lt_of_le hlast hstop)]

end Windows

end OnchainBacktest
