import OnchainBacktest.Lib.Dict
import OnchainBacktest.Results.RunReader

/-!
# Entries of strategy results

One query serves the results of every strategy family.  The entries of a run with positions are its
records, projected one by one, and are paged through the round-trip table.  A FirstSwap run has no
positions: its entries are the orders of its audit, collected, checked and sorted in memory on every
call.

A single entry is looked up by reading one row after the greatest key below the wanted one.
-/

set_option autoImplicit false

namespace OnchainBacktest

namespace Results

open Checked PositionFamily

/-! ## Entries -/

structure EntryAttempt where
  side : String
  number : Nat
  status : String
  decisionBoundary : Nat
  landingBoundary : Option Nat
  referenceOutAtomic : Option Nat
  landingOutAtomic : Option Nat
  minimumOutAtomic : Option Nat
  failureCode : Option String
  deriving DecidableEq

/-- The fields of an entry that are shown and never searched. -/
structure EntryDetail where
  signalEventId : Option String
  assetId : Option String
  quoteAssetId : Option String
  actorRole : Option String
  actorId : Option String
  status : String
  exitReason : Option String
  realizedCashPnlAtomic : Option Int
  economicPnlAtomic : Option Int
  valuationStatus : String
  attempts : List EntryAttempt
  chartAvailability : String
  deriving DecidableEq

/-- An entry: a stored position or an order.  Its identity is spelled without a prefix. -/
structure StrategyEntry where
  entryId : Fin (2 ^ 256)
  boundaryOrdinal : Fin (2 ^ 64)
  detail : EntryDetail
  deriving DecidableEq

abbrev StrategyEntryPage := Paging.Page StrategyEntry RoundTripCursor

/-- `StrategyResultsError`, by its code. -/
inductive StrategyResultsError
  | limitExceeded
  | busy
  | unavailable
  | entryNotFound
  deriving DecidableEq

/-! ## Positions -/

/-- What a family shows of a position. -/
class EntryProjection (ρ : Type) where
  detail : ρ → Except Fault EntryDetail

/-- `project_entry`. -/
def projectEntry {ρ : Type} [PositionFamily ρ] [EntryProjection ρ] (record : ρ) :
    Except Fault StrategyEntry := do
  let detail ← EntryProjection.detail record
  .ok ⟨(roundtripId record).hex, targetBoundary record, detail⟩

/-- `sniping_leg_outcome`: whether a leg was filled, failed or rejected, and why. -/
def snipingLegOutcome (record : RoundTripRecord) (leg : RoundTripLegRecord) :
    Except Fault (String × Option String) :=
  if leg.landingPosition ≠ none then
    .ok (if leg.failureCode = none then "FILLED" else "FAILED", leg.failureCode)
  else if leg.failureCode ≠ none then .ok ("REJECTED", leg.failureCode)
  else if leg.side = .buy ∧ record.status = .buyPreSubmitInsufficientFunds then
    .ok ("REJECTED", some "INSUFFICIENT_FUNDS")
  else if leg.side = .sell ∧ record.status = .sellPreSubmitInsufficientFundsOpen then
    .ok ("REJECTED", some "INSUFFICIENT_NETWORK_FEE")
  else .error (.value "unlanded Sniping leg has no recorded rejection reason")

/-- One attempt of `_sniping_attempts`. -/
def snipingAttempt (record : RoundTripRecord) (number : Nat) (leg : RoundTripLegRecord) :
    Except Fault EntryAttempt := do
  let (status, failureCode) ← snipingLegOutcome record leg
  .ok
    { side := leg.side.value
      number
      status
      decisionBoundary := leg.decisionPosition.boundaryOrdinal
      landingBoundary := leg.landingPosition.map (·.boundaryOrdinal)
      referenceOutAtomic := some leg.referenceOutAtomic
      landingOutAtomic := leg.landingOutAtomic
      minimumOutAtomic := some leg.minimumOutAtomic
      failureCode }

/-- `_sniping_attempts`. -/
def snipingAttempts (record : RoundTripRecord) : Except Fault (List EntryAttempt) := do
  let buy ← record.buy.toList.mapM (snipingAttempt record 0)
  let sell ← record.sell.toList.mapM (snipingAttempt record 1)
  .ok (buy ++ sell)

/-- `project_entry` of a sniping record. -/
def snipingDetail (record : RoundTripRecord) : Except Fault EntryDetail := do
  let attempts ← snipingAttempts record
  .ok
    { signalEventId := some record.targetEventId.spelling
      assetId := some record.assetId.value
      quoteAssetId := some record.quoteAssetId.value
      actorRole := some "creator"
      actorId := some record.developerId.value
      status := record.status.value
      exitReason := record.sell.map fun _ => "FIXED_HOLD_2_SECONDS"
      realizedCashPnlAtomic := record.realizedCashPnlAtomic
      economicPnlAtomic := record.economicPnlAtomic
      valuationStatus := record.mtmStatus.value
      attempts
      chartAvailability := "AVAILABLE" }

instance snipingProjection : EntryProjection RoundTripRecord := ⟨snipingDetail⟩

/-! ## Orders of a FirstSwap audit -/

/-- What an entry takes from the document of a fill. -/
structure AuditFill where
  orderId : Fin (2 ^ 256)
  boundaryOrdinal : Nat
  boughtAssetId : String
  soldAssetId : String

/-- What an entry takes from a record of an audit, or from the record a fill is wrapped in. -/
structure AuditRecord where
  recordType : String
  orderId : Option (Fin (2 ^ 256))
  boundaryOrdinal : Option Nat
  reason : Option String
  fill : Option AuditFill

/-- The state an order ends in, by the type of its last record. -/
def terminalState (recordType : String) : Option String :=
  if recordType = "ORDER_REJECTED" then some "REJECTED"
  else if recordType = "ORDER_EXECUTION_FAILED_AND_RELEASED" then some "FAILED"
  else if recordType = "ORDER_FILLED_ATOMICALLY" then some "FILLED"
  else none

/-- A field that has to be there. -/
def required {α : Type} (field : Option α) (name : String) : Except Fault α :=
  match field with
  | some value => .ok value
  | none => .error (.assertion name)

/-- The records of every order, in the order of their first record. -/
def groupRecords (records : List AuditRecord) : Dict (Fin (2 ^ 256)) (List AuditRecord) :=
  records.foldl (fun generic record =>
    record.orderId.elim generic fun id => generic.set id (generic.getD id [] ++ [record]))
    Dict.empty

/-- The one decision and the one end of an order. -/
def lifecycle (records : List AuditRecord) : Except Fault (AuditRecord × AuditRecord × String) :=
  let decisions := records.filter fun row => row.recordType = "INTENT_PROPOSED"
  let terminals := records.filterMap fun row => (terminalState row.recordType).map fun s => (row, s)
  match decisions, terminals with
  | [decision], [(terminal, state)] => .ok (decision, terminal, state)
  | _, _ => .error (.value "generic order lifecycle is incomplete or ambiguous")

/-- The fill of an order that was filled. -/
def fillOf (orderId : Fin (2 ^ 256)) (records : List AuditRecord) (terminal : AuditRecord)
    (state : String) : Except Fault (Option AuditFill) := do
  let fills ← (records.filter fun row => row.recordType = "RESULT_FILL").mapM fun row =>
    required row.fill "fill"
  refuseIf (fills.length ≠ if state = "FILLED" then 1 else 0)
    (.value "generic fill evidence differs from order outcome")
  match fills.head? with
  | none => .ok none
  | some fill => do
    let landed ← required terminal.boundaryOrdinal "boundary_ordinal"
    refuseIf (fill.orderId ≠ orderId ∨ fill.boundaryOrdinal ≠ landed)
      (.value "generic fill correlation differs from audit")
    .ok (some fill)

/-- A boundary of a cursor fits 64 bits. -/
def cursorBoundary (boundary : Nat) : Except Fault (Fin (2 ^ 64)) :=
  if h : boundary < 2 ^ 64 then .ok ⟨boundary, h⟩
  else .error (.value "round-trip cursor boundary must fit UInt64")

/-- `_generic_entry`. -/
def genericEntry (orderId : Fin (2 ^ 256)) (records : List AuditRecord) :
    Except Fault StrategyEntry := do
  let (decision, terminal, state) ← lifecycle records
  let fill ← fillOf orderId records terminal state
  let decided ← required decision.boundaryOrdinal "boundary_ordinal"
  let landing ← (if state = "REJECTED" then .ok none
    else (required terminal.boundaryOrdinal "boundary_ordinal").map some)
  let boundary ← cursorBoundary decided
  .ok
    { entryId := orderId
      boundaryOrdinal := boundary
      detail :=
        { signalEventId := none
          assetId := fill.map (·.boughtAssetId)
          quoteAssetId := fill.map (·.soldAssetId)
          actorRole := none
          actorId := none
          status := state
          exitReason := none
          realizedCashPnlAtomic := none
          economicPnlAtomic := none
          valuationStatus := "NOT_APPLICABLE"
          attempts :=
            [{ side := "ENTRY"
               number := 0
               status := state
               decisionBoundary := decided
               landingBoundary := landing
               referenceOutAtomic := none
               landingOutAtomic := none
               minimumOutAtomic := none
               failureCode := terminal.reason }]
          chartAvailability := "UNAVAILABLE" } }

/-! ## Cursors -/

/-- `_key`. -/
def entryCursor (entry : StrategyEntry) : RoundTripCursor :=
  ⟨entry.boundaryOrdinal, ⟨entry.entryId, false⟩⟩

/-- The key of an entry. -/
def StrategyEntry.key (entry : StrategyEntry) : RowKey := (entryCursor entry).key

/-- What cursors are compared by: the boundary, and the text of the digest, in which the prefix
stands behind every hexadecimal digit. -/
def RoundTripCursor.value (cursor : RoundTripCursor) : Nat ×ₗ (Bool ×ₗ Nat) :=
  toLex (cursor.targetBoundaryOrdinal.val,
    toLex (cursor.roundtripId.prefixed, cursor.roundtripId.hex.val))

/-- `_predecessor`: the greatest cursor before a key. -/
def predecessor (key : RoundTripCursor) : Option RoundTripCursor :=
  let digest := key.roundtripId.hex.val
  if digest ≠ 0 then some ⟨key.targetBoundaryOrdinal, ⟨Fin.ofNat _ (digest - 1), false⟩⟩
  else if key.targetBoundaryOrdinal.val ≠ 0 then
    some ⟨Fin.ofNat _ (key.targetBoundaryOrdinal.val - 1), ⟨Fin.ofNat _ (2 ^ 256 - 1), false⟩⟩
  else none

/-- `_all_entries` of an audit: the orders by their cursors. -/
def orderEntries (records : List AuditRecord) : Except Fault (List StrategyEntry) := do
  let entries ← (groupRecords records).entries.mapM fun e => genericEntry e.1 e.2
  .ok (entries.insertionSort fun a b => (entryCursor a).value ≤ (entryCursor b).value)

/-! ## The query -/

/-- A stored run, and what the bounded scan of its audit gives. -/
structure StoredResult where
  run : StoredRun
  audit : Except StrategyResultsError (List AuditRecord)

/-- When a query reads: the state of the reader factory, and whether other readers push the run out
of its cache while the query looks. -/
structure Moment where
  factory : Factory
  evictedOpen : Bool
  evictedCall : Bool

/-- What a query raises. -/
inductive QueryError
  | value (message : String)
  | results (error : StrategyResultsError)
  deriving DecidableEq

/-- What a reader raises is not shown. -/
def unavailable {ε α : Type} (x : Except ε α) : Except StrategyResultsError α :=
  x.mapError fun _ => .unavailable

section Query

variable (ρ : Type) [PositionFamily ρ] [EntryProjection ρ] [CanonicalStreamHash]

/-- `_page` for a reader just opened. -/
def resultPage (id : RunId) (result : StoredResult) (moment : Moment)
    (after : Option RoundTripCursor) (limit : Nat) :
    Except StrategyResultsError StrategyEntryPage :=
  if result.run.manifest.summary ≠ .firstSwap then do
    let page ← unavailable ((roundtrips ρ result.run moment.evictedCall after limit).run
      (openedSession moment.factory id moment.evictedOpen)).1
    let items ← unavailable (page.items.mapM projectEntry)
    .ok ⟨items, page.next⟩
  else do
    let records ← result.audit
    let entries ← unavailable (orderEntries records)
    let selected := entries.filter fun entry =>
      decide (∀ cursor ∈ after, cursor.value < (entryCursor entry).value)
    .ok (Paging.cut entryCursor limit selected)

/-- A result of the store; one that is not there cannot be opened. -/
def openResult (store : RunId → Option StoredResult) (id : RunId) :
    Except StrategyResultsError StoredResult :=
  match store id with
  | none => .error .unavailable
  | some result => .ok result

/-- `entries`. -/
def entries (store : RunId → Option StoredResult) (moment : Moment) (id : RunId)
    (after : Option RoundTripCursor) (limit : Nat) : Except QueryError StrategyEntryPage := do
  refuseIf (¬ (1 ≤ limit ∧ limit ≤ MAX_ROUNDTRIP_PAGE_SIZE))
    (.value "entry limit must be between 1 and 200")
  let result ← (openResult store id).mapError .results
  (resultPage ρ id result moment after limit).mapError .results

/-- `entry`. -/
def entry (store : RunId → Option StoredResult) (moment : Moment) (id : RunId)
    (key : RoundTripCursor) : Except StrategyResultsError StrategyEntry := do
  let result ← openResult store id
  let page ← resultPage ρ id result moment (predecessor key) 1
  match page.items.head? with
  | none => .error .entryNotFound
  | some found => do
    refuseIf (entryCursor found ≠ key) .entryNotFound
    .ok found

end Query

end Results

end OnchainBacktest
