import OnchainBacktest.Lib.Dict
import OnchainBacktest.Lib.JsonText
import OnchainBacktest.Source.RawRows

/-!
# Generic bounded evidence

Before a source is trusted its reader runs one bounded query for each capability and derives what
the rows it got can prove or refute.  The rows come in whatever order and in whatever batches the
driver returns them, and nothing that is derived may depend on that.

The functions here are the reader's, loops and all: the counts of transactions are kept in a
dictionary from which a repeated block is removed, the statuses return from inside their loops, and
the digests sort what they hash.
-/

set_option autoImplicit false

namespace OnchainBacktest

namespace Source

open Checked

/-! ## Statuses -/

/-- Whether a bounded source claim has been established. -/
inductive EvidenceStatus
  | unknown
  | proven
  | refuted
  deriving DecidableEq, Repr

/-- The claims the reader derives; the nine others of a capability it leaves unknown. -/
structure CapabilityProofs where
  globalZeroBasedTransactionIndex : EvidenceStatus
  launchTransactionSuccessExact : EvidenceStatus
  blockTimeSecondResolution : EvidenceStatus
  blockTimeMonotone : EvidenceStatus
  deriving DecidableEq, Repr

/-- No claim is established by default. -/
def CapabilityProofs.initial : CapabilityProofs := ⟨.unknown, .unknown, .unknown, .unknown⟩

/-- A returned row; it has as many cells as its query has columns. -/
abbrev Cells := List Cell

/-- `row[columns.index(name)]`. -/
def cellOf (columns : List String) (name : String) (row : Cells) : Cell :=
  (row[columns.idxOf name]?).getD .null

/-- `type(value) is int`. -/
def exactInteger : Cell → Option Int
  | .integer n => some n
  | _ => none

/-- `type(value) is int` and not negative. -/
def exactCount (value : Cell) : Option Int := (exactInteger value).filter (0 ≤ ·)

/-! ## Counts of transactions -/

/-- The counts so far, and the blocks that can have none any more. -/
structure BlockCounts where
  counts : Dict Int Int
  invalid : List Int

def countBlockRow (columns : List String) (state : BlockCounts) (row : Cells) : BlockCounts :=
  match exactCount (cellOf columns "block_ordinal" row) with
  | none => state
  | some block =>
    match exactCount (cellOf columns "transaction_count" row) with
    | none => ⟨state.counts.erase block, block :: state.invalid⟩
    | some count =>
      if state.counts.get? block ≠ none then ⟨state.counts.erase block, block :: state.invalid⟩
      else if block ∈ state.invalid then state
      else ⟨state.counts.set block count, state.invalid⟩

def blockTransactionCounts (columns : List String) (rows : List Cells) : Dict Int Int :=
  (rows.foldl (countBlockRow columns) ⟨Dict.empty, []⟩).counts

/-! ## Positions -/

/-- The row is no position inside a block whose count is known. -/
def refutesPosition (columns : List String) (blockCounts : Dict Int Int) (row : Cells) : Bool :=
  match exactInteger (cellOf columns "block_ordinal" row),
      exactInteger (cellOf columns "transaction_index" row),
      exactInteger (cellOf columns "event_index" row) with
  | some block, some transaction, some event =>
    decide (transaction < 0) || decide (event < 0) ||
      match blockCounts.get? block with
      | none => true
      | some count => decide (count ≤ transaction)
  | _, _, _ => true

/-- The loop over the rows, which stops at the first one that refutes. -/
def positionLoop (columns : List String) (blockCounts : Dict Int Int) :
    List Cells → EvidenceStatus
  | [] => .unknown
  | row :: rest =>
    if refutesPosition columns blockCounts row then .refuted
    else positionLoop columns blockCounts rest

/-- A range check can refute a position; it cannot prove one. -/
def transactionIndexStatus (columns : List String) (rows : List Cells)
    (blockCounts : Dict Int Int) : EvidenceStatus :=
  if rows = [] then .unknown else positionLoop columns blockCounts rows

/-! ## Times -/

def NS_PER_SECOND : Int := 1000000000

def secondResolutionTimeNs : Cell → Option Int
  | .integer n => if 0 ≤ n ∧ n % NS_PER_SECOND = 0 then some n else none
  | .instant aware seconds microsecond =>
    if aware = false ∨ microsecond ≠ 0 then none else some (seconds * NS_PER_SECOND)
  | _ => none

/-- The block and the time of a row, when both can be read. -/
def timedBlock (columns : List String) (row : Cells) : Option (Int × Int) :=
  match exactCount (cellOf columns "block_ordinal" row),
      secondResolutionTimeNs (cellOf columns "block_time" row) with
  | some block, some timeNs => some (block, timeNs)
  | _, _ => none

/-- The loop that reads them, which stops at the first row it cannot read. -/
def convertedLoop (columns : List String) :
    List Cells → List (Int × Int) → Option (List (Int × Int))
  | [], converted => some converted
  | row :: rest, converted =>
    match timedBlock columns row with
    | none => none
    | some timed => convertedLoop columns rest (converted ++ [timed])

def timedLe (a b : Int × Int) : Prop := toLex a ≤ toLex b

/-- Tuples compare by their first parts first. -/
instance timedLe_decidable : DecidableRel timedLe := fun a b =>
  inferInstanceAs (Decidable (toLex a ≤ toLex b))

/-- No time is less than the one before. -/
def pairwiseNondecreasing : List (Int × Int) → Bool
  | [] => true
  | [_] => true
  | a :: b :: rest => decide (a.2 ≤ b.2) && pairwiseNondecreasing (b :: rest)

def blockTimeStatuses (columns : List String) (rows : List Cells) :
    EvidenceStatus × EvidenceStatus :=
  if rows = [] then (.unknown, .unknown)
  else
    match convertedLoop columns rows [] with
    | none => (.refuted, .refuted)
    | some converted =>
      let sorted := converted.insertionSort timedLe
      if (sorted.map Prod.fst).dedup.length ≠ sorted.length then (.proven, .refuted)
      else (.proven, if pairwiseNondecreasing sorted then .proven else .refuted)

/-! ## All claims of a stream -/

/-- `type(value) is bool and value`. -/
def isTrue : Cell → Bool
  | .flag value => value
  | _ => false

def launchSuccessStatus (columns : List String) (rows : List Cells) : EvidenceStatus :=
  let successValues := rows.map (cellOf columns "transaction_succeeded")
  if successValues = [] then .unknown
  else if successValues.all isTrue then .proven
  else .refuted

def deriveProofs (stream : CapabilityStream) (columns : List String) (rows : List Cells)
    (blockCounts : Dict Int Int) : CapabilityProofs :=
  if stream = .blockClock then
    let statuses := blockTimeStatuses columns rows
    { CapabilityProofs.initial with
      blockTimeSecondResolution := statuses.1
      blockTimeMonotone := statuses.2 }
  else
    let proofs := { CapabilityProofs.initial with
      globalZeroBasedTransactionIndex := transactionIndexStatus columns rows blockCounts }
    if stream = .tokenLaunch then
      { proofs with launchTransactionSuccessExact := launchSuccessStatus columns rows }
    else proofs

/-! ## Digests -/

inductive ReaderFault
  | sourceAdapter (operation : String)
  | value (message : String)
  deriving DecidableEq, Repr

/-- `sha256`, of bytes. -/
class EvidenceHash where
  sha256 : List UInt8 → ContentDigest

export EvidenceHash (sha256)

/-- A number in decimal, with zeros in front. -/
def zeroPadded (width n : Nat) : String :=
  let digits := Nat.toDigits 10 n
  String.ofList (List.replicate (width - digits.length) '0' ++ digits)

/-- Year, month and day of a day counted from the first of January 1970. -/
def civilDate (days : Int) : Int × Nat × Nat :=
  -- eras of 400 years, each beginning on the first of March
  let shifted := days + 719468
  let era := shifted / 146097
  let dayOfEra := (shifted % 146097).toNat
  let yearOfEra := (dayOfEra - dayOfEra / 1460 + dayOfEra / 36524 - dayOfEra / 146096) / 365
  let dayOfYear := dayOfEra - (365 * yearOfEra + yearOfEra / 4 - yearOfEra / 100)
  let shiftedMonth := (5 * dayOfYear + 2) / 153
  let day := dayOfYear - (153 * shiftedMonth + 2) / 5 + 1
  let month := if shiftedMonth < 10 then shiftedMonth + 3 else shiftedMonth - 9
  (era * 400 + yearOfEra + (if month ≤ 2 then 1 else 0), month, day)

/-- `datetime.isoformat`; a driver returns its aware times in UTC. -/
def isoformat (aware : Bool) (seconds : Int) (microsecond : Nat) : String :=
  let date := civilDate (seconds / 86400)
  let time := (seconds % 86400).toNat
  zeroPadded 4 date.1.toNat ++ "-" ++ zeroPadded 2 date.2.1 ++ "-" ++ zeroPadded 2 date.2.2 ++
    "T" ++ zeroPadded 2 (time / 3600) ++ ":" ++ zeroPadded 2 (time / 60 % 60) ++ ":" ++
    zeroPadded 2 (time % 60) ++
    (if microsecond = 0 then "" else "." ++ zeroPadded 6 microsecond) ++
    (if aware then "+00:00" else "")

/-- `bytes.hex`. -/
def bytesHex (value : List UInt8) : String :=
  String.ofList (value.flatMap fun b =>
    [Nat.digitChar (b.toNat / 16), Nat.digitChar (b.toNat % 16)])

def canonicalEvidenceValue : Cell → Except ReaderFault Document
  | .null => .ok .null
  | .flag value => .ok (.boolean value)
  | .integer value => .ok (.integer value)
  | .text value => .ok (.text value)
  | .instant aware seconds microsecond =>
    .ok (.object [("datetime", .text (isoformat aware seconds microsecond))])
  | .bytes value => .ok (.object [("bytes", .text (bytesHex value))])
  | .other => .error (.value "bounded evidence returned an unsupported value type")

/-- The bytes of one row. -/
def encodedRow (row : Cells) : Except ReaderFault (List UInt8) := do
  let values ← row.mapM canonicalEvidenceValue
  match (Document.array values).canonicalJsonBytes with
  | none => .error (.value "bounded evidence returned an unsupported value type")
  | some encoded => .ok encoded

def EVIDENCE_RESULT_DOMAIN : List UInt8 :=
  ("backtest.clickhouse.bounded-evidence-result.v1".toList.flatMap String.utf8EncodeChar) ++ [0]

def EVIDENCE_MAX_CANONICAL_BYTES : Nat := 64 * 1024 ^ 2

/-- `n.to_bytes(8, "big")`. -/
def bigEndian8 (n : Nat) : List UInt8 :=
  (List.range 8).map fun i => UInt8.ofNat (n / 256 ^ (7 - i))

/-- Byte strings in order. -/
def bytesLe (a b : List UInt8) : Prop := a.map UInt8.toNat ≤ b.map UInt8.toNat

instance bytesLe_decidable : DecidableRel bytesLe := fun a b =>
  inferInstanceAs (Decidable (a.map UInt8.toNat ≤ b.map UInt8.toNat))

/-- One pass of the loop over the rows: their encodings so far, and how long they are in all. -/
def encodeRow (state : List (List UInt8) × Nat) (row : Cells) :
    Except ReaderFault (List (List UInt8) × Nat) := do
  let encoded ← encodedRow row
  refuseIf (EVIDENCE_MAX_CANONICAL_BYTES < state.2 + encoded.length)
    (.value "bounded evidence result exceeds local byte limit")
  .ok (state.1 ++ [encoded], state.2 + encoded.length)

/-- The bytes that are hashed for sorted encodings. -/
def evidenceMaterial (columns : List String) (encodedRows : List (List UInt8)) : List UInt8 :=
  EVIDENCE_RESULT_DOMAIN
    ++ ((Document.array (columns.map .text)).canonicalJsonBytes).getD []
    ++ encodedRows.flatMap fun encoded => bigEndian8 encoded.length ++ encoded

section Hashing

variable [EvidenceHash]

def evidenceRowsDigest (columns : List String) (rows : List Cells) :
    Except ReaderFault ContentDigest := do
  let result ← rows.foldlM encodeRow ([], 0)
  .ok (sha256 (evidenceMaterial columns (result.1.insertionSort bytesLe)))

/-- Digests sort as the numbers they spell. -/
abbrev DigestPair := Fin (2 ^ 256) × Fin (2 ^ 256)

def digestPairLe (a b : DigestPair) : Prop := toLex a ≤ toLex b

instance digestPairLe_decidable : DecidableRel digestPairLe := fun a b =>
  inferInstanceAs (Decidable (toLex a ≤ toLex b))

def pairsDocument (pairs : List DigestPair) : Document :=
  .array (pairs.map fun pair =>
    .array [.text (ContentDigest.spelling ⟨pair.1, false⟩),
      .text (ContentDigest.spelling ⟨pair.2, false⟩)])

def combinedResultDigest (values : List (ContentDigest × ContentDigest)) : ContentDigest :=
  let pairs := values.map fun value => (value.1.hex, value.2.hex)
  sha256 (EVIDENCE_RESULT_DOMAIN
    ++ ((pairsDocument (pairs.insertionSort digestPairLe)).canonicalJsonBytes).getD [])

end Hashing

/-! ## Reading, and the receipts -/

structure BoundedQuery where
  columns : List String
  blockOrdinalColumnIndex : Nat
  fingerprint : ContentDigest
  deriving DecidableEq

def validateBoundedRow (width blockOrdinalIndex : Nat) (blockRange : BlockRange) (row : Cells) :
    Except ReaderFault Unit := do
  refuseIf (row.length ≠ width) (.value "ClickHouse returned a row with an unexpected width")
  match (row[blockOrdinalIndex]?).bind exactInteger with
  | none => .error (.value "ClickHouse returned a non-integer block ordinal")
  | some blockOrdinal =>
    refuseIf (¬ (0 ≤ blockOrdinal ∧ blockRange.containsBlock blockOrdinal.toNat = true))
      (.value "ClickHouse returned a row outside the requested shard")

/-- One batch of a stream of rows. -/
def readBatch (query : BoundedQuery) (blockRange : BlockRange) (maxRows : Nat)
    (selected rows : List Cells) : Except ReaderFault (List Cells) := do
  refuseIf (maxRows < selected.length + rows.length) (.sourceAdapter "evidence-query")
  (rows.forM (validateBoundedRow query.columns.length query.blockOrdinalColumnIndex
    blockRange)).mapError fun _ => .sourceAdapter "evidence-query"
  .ok (selected ++ rows)

def readBoundedRows (query : BoundedQuery) (blockRange : BlockRange) (maxRows : Nat)
    (blocks : List (List Cells)) : Except ReaderFault (List Cells) :=
  blocks.foldlM (readBatch query blockRange maxRows) []

/-- What a receipt says of the rows it was made from. -/
structure EvidenceReceipt where
  stream : CapabilityStream
  proofs : CapabilityProofs
  queryFingerprints : List ContentDigest
  resultDigest : ContentDigest
  observedRows : Nat
  deriving DecidableEq

/-- A stream, its query, its rows and their digest. -/
structure BoundedObservation where
  stream : CapabilityStream
  query : BoundedQuery
  rows : List Cells
  digest : ContentDigest

def STREAMS : List CapabilityStream :=
  [.blockClock, .tokenLaunch, .pumpCurveTrade, .pumpCurveLifecycle]

section Inspecting

variable [EvidenceHash]

/-- Run the query of one stream; `answers` is what the driver returns for it, batch by batch. -/
def observe (queries : CapabilityStream → BoundedQuery) (blockRange : BlockRange) (maxRows : Nat)
    (answers : CapabilityStream → List (List Cells)) (stream : CapabilityStream) :
    Except ReaderFault BoundedObservation := do
  let rows ← readBoundedRows (queries stream) blockRange maxRows (answers stream)
  let digest ← evidenceRowsDigest (queries stream).columns rows
  .ok ⟨stream, queries stream, rows, digest⟩

/-- The receipt of one stream; every stream but the clock is judged against the clock as well. -/
def receiptOf (clock observation : BoundedObservation) : EvidenceReceipt :=
  let blockCounts := blockTransactionCounts clock.query.columns clock.rows
  let own := (observation.query.fingerprint, observation.digest)
  let related :=
    if observation.stream = .blockClock then [own]
    else [(clock.query.fingerprint, clock.digest), own]
  { stream := observation.stream
    proofs := deriveProofs observation.stream observation.query.columns observation.rows blockCounts
    queryFingerprints := ((related.map Prod.fst).dedup).insertionSort fun a b => a.hex ≤ b.hex
    resultDigest := combinedResultDigest related
    observedRows := observation.rows.length }

/-- The receipts of a bounded inspection, stream by stream. -/
def inspectBoundedEvidence (queries : CapabilityStream → BoundedQuery) (blockRange : BlockRange)
    (maxRows : Nat) (answers : CapabilityStream → List (List Cells)) :
    Except ReaderFault (List EvidenceReceipt) := do
  let observations ← STREAMS.mapM (observe queries blockRange maxRows answers)
  match observations.head? with
  | none => .error (.sourceAdapter "evidence-capability-structure")
  | some clock => .ok (observations.map (receiptOf clock))

end Inspecting

end Source

end OnchainBacktest
