import OnchainBacktest.Domain.RoundTripCodec
import OnchainBacktest.Engine.ResultOrder
import OnchainBacktest.Lib.JsonText
import OnchainBacktest.Lib.Paging

/-!
# Reading a round-trip table

A round-trip table is a file of row groups.  Its rows hold a record as canonical JSON, and beside it
the columns a page is found by: the boundary of the target, the identity of the round trip and its
status.

`scanRoundtrips` reads the whole table: it decodes every row, checks that the rows are in keyset
order, and compares the stream of records with the descriptor of the table and, for a copy run, the
totals with the summary.  On the way it takes one page and samples the last keys of row groups, at
most 1024 of them.  `readRoundtripPage` reads one page of a table that was scanned before; it starts
behind the row groups that the sampled keys prove to lie before the cursor.

The records of the families differ; what both ways of reading take from a family is
`PositionFamily`.
-/

set_option autoImplicit false

namespace OnchainBacktest

namespace Results

open Checked

/-! ## What is read -/

/-- What a read raises. -/
inductive ReadError
  | integrity (error : RunOutputIntegrityError)
  | fault (fault : Fault)

/-- A `RunOutputIntegrityError`. -/
def integrityError (message : String) : ReadError := .integrity ⟨message⟩

/-- The named sums of a copy run. -/
abbrev CopyFinancialTotals := List (String × Int)

/-- A family of position records: its constructor from a document, and the fields a reader uses. -/
class PositionFamily (ρ : Type) where
  /-- `roundtrip_record_from_document` or `copy_position_from_document`. -/
  fromDocument : String → Document → Except Fault ρ
  /-- `target_position.boundary_ordinal`. -/
  targetBoundary : ρ → Fin (2 ^ 64)
  roundtripId : ρ → ContentDigest
  status : ρ → String
  networkId : ρ → NetworkId
  positionSchemaId : ρ → PositionSchemaId
  /-- Whether a record is a `CopyPositionRecord`. -/
  isCopy : ρ → Bool
  /-- The totals `CopyTotalsAccumulator` finishes with. -/
  copyTotals : List ρ → Except Fault CopyFinancialTotals

/-- A boundary fits the column. -/
theorem boundary_lt (p : ChainPosition) : p.boundaryOrdinal < 2 ^ 64 := by
  have := p.boundaryOrdinal_le
  simp only [UINT64_MAX] at this
  omega

/-- The round trips of a sniping run. -/
instance snipingFamily : PositionFamily RoundTripRecord where
  fromDocument := roundtripRecordFromDocument
  targetBoundary record := ⟨record.targetPosition.boundaryOrdinal, boundary_lt _⟩
  roundtripId record := record.roundtripId
  status record := record.status.value
  networkId record := record.networkId
  positionSchemaId record := record.positionSchemaId
  isCopy _ := false
  copyTotals _ := .ok []

/-- `CanonicalStreamHasher`: the digest of a domain and a stream of encoded values. -/
class CanonicalStreamHash where
  digest : String → List (List UInt8) → ContentDigest

/-- A row of a round-trip table; the 32 bytes of the identity are one number. -/
structure RoundTripRow where
  targetBoundaryOrdinal : Fin (2 ^ 64)
  roundtripId : Fin (2 ^ 256)
  status : String
  recordJson : List UInt8

/-- The Parquet file of a round-trip table. -/
structure RoundTripFile where
  schemaId : String
  rowGroups : List (List RoundTripRow)

/-- The rows of all row groups. -/
def RoundTripFile.rows (file : RoundTripFile) : List RoundTripRow := file.rowGroups.flatten

/-- `ResultTableDescriptor`. -/
structure ResultTableDescriptor where
  schemaId : String
  rowCount : Nat
  canonicalDigest : ContentDigest

/-- The summary of a run, by its family. -/
inductive BoundedSummary
  | firstSwap
  | sniping
  | copy (totals : CopyFinancialTotals)
  deriving DecidableEq

/-- What a reader uses of the manifest of a successful run. -/
structure RunManifest where
  summary : BoundedSummary
  networkId : NetworkId
  positionSchemaId : PositionSchemaId
  roundtrips : ResultTableDescriptor

/-- `RoundTripCursor`; its boundary fits 64 bits. -/
structure RoundTripCursor where
  targetBoundaryOrdinal : Fin (2 ^ 64)
  roundtripId : ContentDigest
  deriving DecidableEq

/-- The place of a cursor among the rows. -/
def RoundTripCursor.key (cursor : RoundTripCursor) : RowKey :=
  toLex (cursor.targetBoundaryOrdinal.val, cursor.roundtripId.hex.val)

/-- `RoundTripPage`. -/
abbrev RoundTripPage (ρ : Type) := Paging.Page ρ RoundTripCursor

/-- A sampled row group, and the greatest key up to its end. -/
abbrev PageIndex := List (Nat × RowKey)

def COPY_POSITION_STREAM : String := "backtest.copy-position-stream.v1"

def MAX_ROUNDTRIP_PAGE_SIZE : Nat := 200

def MAX_ROUNDTRIP_PAGE_CHECKPOINTS : Nat := 1024

section Read

variable {ρ : Type} [PositionFamily ρ]

open PositionFamily

/-! ## Rows -/

/-- The cursor that stands at a record. -/
def cursorAt (record : ρ) : RoundTripCursor := ⟨targetBoundary record, roundtripId record⟩

/-- The key of a record. -/
def recordKey (record : ρ) : RowKey := (cursorAt record).key

/-- The key in the columns of a row. -/
def RoundTripRow.indexedKey (row : RoundTripRow) : RowKey :=
  toLex (row.targetBoundaryOrdinal.val, row.roundtripId.val)

/-- The record of a row: canonical JSON of a document of the family. -/
def decodeRecord (schemaId : String) (encoded : List UInt8) : Except ReadError ρ := do
  refuseIf (encoded = []) (integrityError "round-trip record must be non-empty bytes")
  match Document.loads encoded with
  | none => .error (integrityError "round-trip row is invalid JSON")
  | some document => do
    refuseIf (Document.canonicalJsonBytes document ≠ some encoded)
      (integrityError "round-trip row is not canonical JSON")
    (fromDocument schemaId document).mapError fun _ =>
      integrityError "round-trip row contract is invalid"

/-- `_decode_roundtrip_row`. -/
def decodeRoundtripRow (manifest : RunManifest) (row : RoundTripRow) :
    Except ReadError (List UInt8 × ρ × RowKey) := do
  let record : ρ ← decodeRecord manifest.roundtrips.schemaId row.recordJson
  let key := recordKey record
  refuseIf (row.targetBoundaryOrdinal ≠ targetBoundary record ∨
      row.roundtripId ≠ (roundtripId record).hex ∨ row.status ≠ status record)
    (integrityError "round-trip indexed columns differ from record")
  refuseIf (networkId record ≠ manifest.networkId ∨
      positionSchemaId record ≠ manifest.positionSchemaId)
    (integrityError "round-trip chain identity differs from Run")
  .ok (row.recordJson, record, key)

/-- `_require_parquet_schema`. -/
def requireParquetSchema (descriptor : ResultTableDescriptor) (file : RoundTripFile) :
    Except ReadError Unit := do
  refuseIf (file.schemaId ≠ descriptor.schemaId)
    (integrityError "result table Parquet schema is invalid")
  refuseIf (file.rows.length ≠ descriptor.rowCount)
    (integrityError "result table Parquet row count differs from descriptor")

/-! ## Pages -/

/-- The checks of a page. -/
def checkPage (page : RoundTripPage ρ) : Except ReadError Unit := do
  refuseIf (MAX_ROUNDTRIP_PAGE_SIZE < page.items.length)
    (.fault (.value "round-trip page exceeds the bounded row limit"))
  refuseIf (¬ (page.items.map recordKey).Pairwise (· < ·))
    (.fault (.value "round-trip page rows must be strictly keyset ordered"))
  match page.next with
  | none => .ok ()
  | some cursor =>
    match page.items.getLast? with
    | none => .error (.fault (.value "an empty round-trip page cannot carry a next cursor"))
    | some last =>
      refuseIf (cursor ≠ cursorAt last)
        (.fault (.value "round-trip next cursor must identify the final returned row"))

/-- The page of the selected rows, one more than the limit when there are more. -/
def selectedPage (selected : List ρ) (limit : Nat) : Except ReadError (RoundTripPage ρ) := do
  let items := selected.take limit
  let next := if limit < selected.length then items.getLast?.map cursorAt else none
  let page : RoundTripPage ρ := ⟨items, next⟩
  checkPage page
  .ok page

/-! ## One page of a table that was scanned before -/

/-- The loop of `_roundtrip_row_groups_after` over the sampled row groups. -/
def startGroup (groups : Nat) (cursor : RowKey) :
    Nat → Option (Nat × RowKey) → PageIndex → Except ReadError Nat
  | start, _, [] => .ok start
  | start, previous, (group, maximum) :: rest => do
    refuseIf ((∃ before ∈ previous, group ≤ before.1) ∨ groups ≤ group)
      (integrityError "round-trip page index is invalid")
    refuseIf (∃ before ∈ previous, maximum < before.2)
      (integrityError "round-trip page index is not ordered")
    if maximum ≤ cursor then startGroup groups cursor (group + 1) (some (group, maximum)) rest
    else .ok start

/-- `_roundtrip_row_groups_after`: the first row group to read. -/
def roundtripRowGroupsAfter (index : Option PageIndex) (groups : Nat) (cursor : Option RowKey) :
    Except ReadError Nat :=
  match cursor, index with
  | some cursor, some index => do
    refuseIf (∃ last ∈ index.getLast?, last.1 + 1 ≠ groups)
      (integrityError "round-trip page index does not cover the table")
    startGroup groups cursor 0 none index
  | _, _ => .ok 0

/-- The loop of `_read_roundtrip_page` over the rows: it stops behind the limit. -/
def selectRows (manifest : RunManifest) (cursor : Option RowKey) (limit : Nat) :
    List ρ → List RoundTripRow → Except ReadError (List ρ)
  | selected, [] => .ok selected
  | selected, row :: rest =>
    if ∃ c ∈ cursor, row.indexedKey ≤ c then selectRows manifest cursor limit selected rest
    else do
      let (_, record, key) ← decodeRoundtripRow manifest row
      refuseIf (key ≠ row.indexedKey)
        (integrityError "round-trip indexed columns differ from record")
      if limit < (selected ++ [record]).length then .ok (selected ++ [record])
      else selectRows manifest cursor limit (selected ++ [record]) rest

/-- `_read_roundtrip_page`. -/
def readRoundtripPage (manifest : RunManifest) (file : RoundTripFile) (index : Option PageIndex)
    (after : Option RoundTripCursor) (limit : Nat) : Except ReadError (RoundTripPage ρ) := do
  let cursor := after.map RoundTripCursor.key
  requireParquetSchema manifest.roundtrips file
  let start ← roundtripRowGroupsAfter index file.rowGroups.length cursor
  let selected ← selectRows manifest cursor limit [] (file.rowGroups.drop start).flatten
  selectedPage selected limit

/-! ## The full scan -/

/-- The rows decoded so far, the key of the last one, the rows taken for the page and the sampled
row groups. -/
structure ScanState (ρ : Type) where
  encoded : List (List UInt8)
  records : List ρ
  previous : Option RowKey
  selected : List ρ
  checkpoints : PageIndex

/-- The start of a scan. -/
def ScanState.empty : ScanState ρ := ⟨[], [], none, [], []⟩

/-- A copy table holds copy positions only. -/
def requireFamily (manifest : RunManifest) (record : ρ) : Except ReadError Unit :=
  match manifest.summary with
  | .copy _ => refuseIf (isCopy record = false)
      (integrityError "copy table contains a different result family")
  | _ => .ok ()

/-- A row that passed, taken; it is selected when it lies above the cursor and the page lacks it. -/
def ScanState.take (state : ScanState ρ) (cursor : Option RowKey) (limit : Nat)
    (encoded : List UInt8) (record : ρ) (key : RowKey) : ScanState ρ where
  encoded := state.encoded ++ [encoded]
  records := state.records ++ [record]
  previous := some key
  selected :=
    if (∃ c ∈ cursor, key ≤ c) ∨ ¬ (0 < limit ∧ state.selected.length ≤ limit) then state.selected
    else state.selected ++ [record]
  checkpoints := state.checkpoints

/-- The body of the scan for one row. -/
def scanRow (manifest : RunManifest) (cursor : Option RowKey) (limit : Nat) (state : ScanState ρ)
    (row : RoundTripRow) : Except ReadError (ScanState ρ) := do
  let (encoded, record, key) ← decodeRoundtripRow manifest row
  requireFamily manifest record
  refuseIf (∃ before ∈ state.previous, key ≤ before)
    (integrityError "round-trip table is not keyset ordered")
  .ok (state.take cursor limit encoded record key)

/-- The sampling stride: at most 1024 row groups are sampled. -/
def checkpointStride (groups : Nat) : Nat :=
  max 1 ((groups + MAX_ROUNDTRIP_PAGE_CHECKPOINTS - 1) / MAX_ROUNDTRIP_PAGE_CHECKPOINTS)

/-- Whether a row group is sampled. -/
def sampled (groups group : Nat) : Prop :=
  (group + 1) % checkpointStride groups = 0 ∨ group + 1 = groups

instance sampled_decidable (groups group : Nat) : Decidable (sampled groups group) :=
  inferInstanceAs (Decidable (_ ∨ _))

/-- The end of a row group: the last key so far is its entry, when it is sampled. -/
def ScanState.endGroup (state : ScanState ρ) (groups group : Nat) : ScanState ρ where
  encoded := state.encoded
  records := state.records
  previous := state.previous
  selected := state.selected
  checkpoints :=
    match state.previous with
    | none => state.checkpoints
    | some last =>
      if sampled groups group then state.checkpoints ++ [(group, last)] else state.checkpoints

/-- The body of the scan for one row group. -/
def scanGroup (manifest : RunManifest) (groups : Nat) (cursor : Option RowKey) (limit : Nat)
    (state : ScanState ρ) (group : List RoundTripRow × Nat) : Except ReadError (ScanState ρ) := do
  let state ← group.1.foldlM (scanRow manifest cursor limit) state
  .ok (state.endGroup groups group.2)

/-- The domain the records of a table are hashed in. -/
def roundtripDomain (manifest : RunManifest) : String :=
  match manifest.summary with
  | .firstSwap => "backtest.first-swap-roundtrip-stream.v1"
  | .copy _ => COPY_POSITION_STREAM
  | .sniping =>
    if manifest.roundtrips.schemaId = ROUNDTRIP_RESULT_SCHEMA_V4 then
      "backtest.sniping-roundtrip-stream.v4"
    else "backtest.sniping-roundtrip-stream.v3"

/-- The totals of a copy run, recomputed from its records, are the totals of its summary. -/
def checkTotals (manifest : RunManifest) (records : List ρ) : Except ReadError Unit :=
  match manifest.summary with
  | .copy totals => do
    let finished ← (copyTotals records).mapError ReadError.fault
    refuseIf (finished ≠ totals)
      (integrityError "copy position totals differ from the bounded summary")
  | _ => .ok ()

/-- `_scan_roundtrips`: the page, and the index for the pages after it. -/
def scanRoundtrips [CanonicalStreamHash] (manifest : RunManifest) (file : RoundTripFile)
    (after : Option RoundTripCursor) (limit : Nat) :
    Except ReadError (RoundTripPage ρ × PageIndex) := do
  requireParquetSchema manifest.roundtrips file
  let state ← file.rowGroups.zipIdx.foldlM
    (scanGroup manifest file.rowGroups.length (after.map RoundTripCursor.key) limit)
    ScanState.empty
  refuseIf (state.encoded.length ≠ manifest.roundtrips.rowCount ∨
      CanonicalStreamHash.digest (roundtripDomain manifest) state.encoded
        ≠ manifest.roundtrips.canonicalDigest)
    (integrityError "round-trip table differs from its descriptor")
  checkTotals manifest state.records
  refuseIf (MAX_ROUNDTRIP_PAGE_CHECKPOINTS < state.checkpoints.length)
    (integrityError "round-trip page index exceeds its memory bound")
  let page ← selectedPage state.selected limit
  .ok (page, state.checkpoints)

end Read

end Results

end OnchainBacktest
