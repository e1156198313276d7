import OnchainBacktest.Lib.JsonText
import OnchainBacktest.Jobs.JobModels

/-!
# The progress pipe of a child

A child reports its progress to its supervisor over a pipe that neither of them waits for: one
canonical JSON text a line, each an event of the attempt.  The child writes a frame whole or drops
it, and the supervisor reads what is there, a bounded number of bytes at a time, keeps what it has
read of a line between two reads, and throws away what is too long to be a frame.

What a read finds is given: some bytes, nothing for now, the end of the pipe (a read of no bytes)
or an error.
-/

set_option autoImplicit false

namespace OnchainBacktest

namespace Jobs

open Checked

/-! ## Events -/

inductive ProgressLevel
  | info
  | warning
  | error
  deriving DecidableEq, Repr

namespace ProgressLevel

def members : List ProgressLevel := [info, warning, error]

def value : ProgressLevel → String
  | info => "INFO"
  | warning => "WARNING"
  | error => "ERROR"

end ProgressLevel

/-- Finite, safe lifecycle stages emitted outside execution hot loops. -/
inductive ProgressStage
  | validatingInputs
  | preparingResearch
  | analyzingWallets
  | preparingDataset
  | compilingReplay
  | compilingDeliverySchedule
  | buildingFeatures
  | buildingUniverse
  | buildingLabels
  | trainingModel
  | buildingModelSchedule
  | buildingPredictions
  | runningBacktest
  | runningSweep
  | verifyingOutputs
  | publishingReceipt
  | completed
  deriving DecidableEq, Repr

namespace ProgressStage

def members : List ProgressStage :=
  [validatingInputs, preparingResearch, analyzingWallets, preparingDataset, compilingReplay,
    compilingDeliverySchedule, buildingFeatures, buildingUniverse, buildingLabels, trainingModel,
    buildingModelSchedule, buildingPredictions, runningBacktest, runningSweep, verifyingOutputs,
    publishingReceipt, completed]

def value : ProgressStage → String
  | validatingInputs => "VALIDATING_INPUTS"
  | preparingResearch => "PREPARING_RESEARCH"
  | analyzingWallets => "ANALYZING_WALLETS"
  | preparingDataset => "PREPARING_DATASET"
  | compilingReplay => "COMPILING_REPLAY"
  | compilingDeliverySchedule => "COMPILING_DELIVERY_SCHEDULE"
  | buildingFeatures => "BUILDING_FEATURES"
  | buildingUniverse => "BUILDING_UNIVERSE"
  | buildingLabels => "BUILDING_LABELS"
  | trainingModel => "TRAINING_MODEL"
  | buildingModelSchedule => "BUILDING_MODEL_SCHEDULE"
  | buildingPredictions => "BUILDING_PREDICTIONS"
  | runningBacktest => "RUNNING_BACKTEST"
  | runningSweep => "RUNNING_SWEEP"
  | verifyingOutputs => "VERIFYING_OUTPUTS"
  | publishingReceipt => "PUBLISHING_RECEIPT"
  | completed => "COMPLETED"

end ProgressStage

def requireNonNegative (value : Option Int) (field : String) : Except QueueFault Unit :=
  match value with
  | none => .ok ()
  | some value => refuseIf (value < 0) (.value (field ++ " must be non-negative"))

/-- The last check of the units of an event. -/
def requireWithinTotal (completed total : Option Int) : Except QueueFault Unit :=
  match completed, total with
  | some completed, some total =>
    refuseIf (total < completed) (.value "completed_units cannot exceed total_units")
  | _, _ => .ok ()

def validateProgressUnits (completed total : Option Int) : Except QueueFault Unit := do
  requireNonNegative completed "completed_units"
  requireNonNegative total "total_units"
  requireWithinTotal completed total

def checkProgressEvent (sequence : Int) (completedUnits totalUnits : Option Int) :
    Except QueueFault Unit := do
  refuseIf (¬ (1 ≤ sequence ∧ sequence ≤ 2 ^ 63 - 1))
    (.value "progress sequence must be a positive SQLite integer")
  validateProgressUnits completedUnits totalUnits

/-- One allowlisted child lifecycle update; never one market event. -/
structure ProgressEvent where
  attemptId : AttemptId
  sequence : Int
  level : ProgressLevel
  stage : ProgressStage
  completedUnits : Option Int
  totalUnits : Option Int
  checked : checkProgressEvent sequence completedUnits totalUnits = .ok ()

def ProgressEvent.make (attemptId : AttemptId) (sequence : Int) (level : ProgressLevel)
    (stage : ProgressStage) (completedUnits totalUnits : Option Int) :
    Except QueueFault ProgressEvent :=
  construct (checkProgressEvent sequence completedUnits totalUnits) fun checked =>
    { attemptId, sequence, level, stage, completedUnits, totalUnits, checked }

/-! ## Frames -/

def frameSchema : String := "backtest.child-progress.v1"

def maxFrameBytes : Nat := 1024

def maxDrainBytes : Nat := 32 * 1024

def maxEventsPerDrain : Nat := 32

/-- What one read asks for at most. -/
def maxReadBytes : Nat := 4096

def newline : UInt8 := 10

/-- The fields of a frame, in the order of their keys. -/
def ProgressEvent.document (event : ProgressEvent) : List (String × Document) :=
  [("attempt_id", .text event.attemptId.value),
    ("completed_units", .optionalInteger event.completedUnits),
    ("level", .text event.level.value),
    ("schema", .text frameSchema),
    ("sequence", .integer event.sequence),
    ("stage", .text event.stage.value),
    ("total_units", .optionalInteger event.totalUnits)]

/-- The keys every frame has, and no others. -/
def frameKeys : List String :=
  ["attempt_id", "completed_units", "level", "schema", "sequence", "stage", "total_units"]

/-! ## Publishing -/

/-- What a write to the pipe did. -/
inductive WriteResult
  /-- So many bytes were taken. -/
  | written (bytes : Nat)
  /-- `BlockingIOError`. -/
  | wouldBlock
  /-- Any other `OSError`. -/
  | failed

/-- Best-effort writer. -/
structure FdProgressSink where
  closed : Bool

/-- The bytes of an event with the line feed that ends them. -/
def ProgressEvent.payload (event : ProgressEvent) : List UInt8 :=
  ((Document.canonicalJsonBytes (.object event.document)).getD []) ++ [newline]

/-- Publish an event: the bytes that go into the pipe, and the sink afterwards. -/
def FdProgressSink.publish (sink : FdProgressSink) (event : ProgressEvent) (result : WriteResult) :
    List UInt8 × FdProgressSink :=
  if sink.closed = true then ([], sink)
  else if maxFrameBytes < event.payload.length then ([], { sink with closed := true })
  else
    match result with
    | .wouldBlock => ([], sink)
    | .failed => ([], { sink with closed := true })
    | .written bytes =>
      (event.payload.take bytes, { sink with closed := bytes != event.payload.length })

/-! ## Reading -/

/-- Supervisor-owned decoder with bounded memory and strict frame schema. -/
structure ProgressPipeReader where
  attemptId : AttemptId
  buffer : List UInt8
  discardUntilNewline : Bool
  lastSequence : Int
  droppedSinceDrain : Nat
  closed : Bool

/-- The reader of a pipe nothing has been read from. -/
def ProgressPipeReader.start (attemptId : AttemptId) : ProgressPipeReader :=
  { attemptId, buffer := [], discardUntilNewline := false, lastSequence := 0,
    droppedSinceDrain := 0, closed := false }

/-- `bytes.find(b"\n")`. -/
def find (bytes : List UInt8) : Option Nat := bytes.idxOf? newline

/-- One more line found leaves fewer bytes. -/
theorem drop_find_lt {buffer : List UInt8} {n : Nat} (h : find buffer = some n) :
    (buffer.drop (n + 1)).length < buffer.length := by
  obtain ⟨hlt, -⟩ := List.idxOf?_eq_some_iff.mp h
  rw [List.length_drop]
  omega

/-- The frames of a buffer, how many of its lines are dropped, and what is left of it. -/
def takeFrames (buffer : List UInt8) : List (List UInt8) × Nat × List UInt8 :=
  match _h : find buffer with
  | none => ([], 0, buffer)
  | some n =>
    let frame := buffer.take n
    let (frames, dropped, rest) := takeFrames (buffer.drop (n + 1))
    if frame = [] ∨ maxFrameBytes < frame.length then (frames, dropped + 1, rest)
    else (frame :: frames, dropped, rest)
termination_by buffer.length
decreasing_by exact drop_find_lt _h

namespace ProgressPipeReader

/-- The part of `_feed` from the extension of the buffer on. -/
def extend (reader : ProgressPipeReader) (chunk : List UInt8) :
    List (List UInt8) × ProgressPipeReader :=
  let (frames, dropped, rest) := takeFrames (reader.buffer ++ chunk)
  if maxFrameBytes < rest.length then
    (frames, { reader with
      buffer := []
      discardUntilNewline := true
      droppedSinceDrain := reader.droppedSinceDrain + dropped + 1 })
  else
    (frames, { reader with
      buffer := rest
      droppedSinceDrain := reader.droppedSinceDrain + dropped })

/-- `_feed`: the frames that one chunk completes. -/
def feed (reader : ProgressPipeReader) (chunk : List UInt8) :
    List (List UInt8) × ProgressPipeReader :=
  if reader.discardUntilNewline = true then
    match find chunk with
    | none => ([], reader)
    | some n => { reader with discardUntilNewline := false }.extend (chunk.drop (n + 1))
  else reader.extend chunk

end ProgressPipeReader

/-- The fields of a frame, read as an event of the attempt. -/
def decodeDocument (attemptId : AttemptId) (document : List (String × Document)) :
    Except QueueFault ProgressEvent := do
  let sequence ← Document.readInteger .value (Document.entry document "sequence") "progress field"
  let completed ← Document.readOptionalInteger .value (Document.entry document "completed_units")
    "progress field"
  let total ← Document.readOptionalInteger .value (Document.entry document "total_units")
    "progress field"
  let level ← Document.readText .value (Document.entry document "level") "progress field"
  let level ← Document.readMember .value ProgressLevel.members ProgressLevel.value "ProgressLevel"
    level
  let stage ← Document.readText .value (Document.entry document "stage") "progress field"
  let stage ← Document.readMember .value ProgressStage.members ProgressStage.value "ProgressStage"
    stage
  ProgressEvent.make attemptId sequence level stage completed total

/-- The fields of a document that is an object. -/
def asObject : Document → Option (List (String × Document))
  | .object fields => some fields
  | _ => none

/-- `_decode`: the event of a line, if it is a canonical frame of the attempt. -/
def decode (attemptId : AttemptId) (payload : List UInt8) : Option ProgressEvent := do
  let raw ← Document.loads payload
  let canonical ← Document.canonicalJsonBytes raw
  if canonical ≠ payload then none
  else
    let document ← asObject raw
    if document.map Prod.fst ≠ frameKeys then none
    else if Document.entry document "schema" ≠ .text frameSchema then none
    else if Document.entry document "attempt_id" ≠ .text attemptId.value then none
    else (decodeDocument attemptId document).toOption

namespace ProgressPipeReader

/-- One frame in the loop of `drain`: an event that goes on in sequence is kept. -/
def offer (state : ProgressPipeReader × List ProgressEvent) (frame : List UInt8) :
    ProgressPipeReader × List ProgressEvent :=
  let (reader, events) := state
  match decode reader.attemptId frame with
  | none => ({ reader with droppedSinceDrain := reader.droppedSinceDrain + 1 }, events)
  | some event =>
    if event.sequence ≤ reader.lastSequence then
      ({ reader with droppedSinceDrain := reader.droppedSinceDrain + 1 }, events)
    else ({ reader with lastSequence := event.sequence }, events ++ [event])

end ProgressPipeReader

/-- What a read of the pipe found. -/
inductive ReadResult
  /-- Some bytes; none at the end of the pipe. -/
  | data (chunk : List UInt8)
  /-- `BlockingIOError`: nothing for now. -/
  | wouldBlock
  /-- Any other `OSError`. -/
  | failed

namespace ProgressPipeReader

/-- The loop of `drain`: the reader, the events kept, and whether the pipe has ended.  There is
nothing for now where no result is given. -/
def readLoop (reader : ProgressPipeReader) (events : List ProgressEvent) (readBytes : Nat) :
    List ReadResult → ProgressPipeReader × List ProgressEvent × Bool
  | [] => (reader, events, false)
  | result :: results =>
    if readBytes < maxDrainBytes then
      match result with
      | .wouldBlock => (reader, events, false)
      | .failed => (reader, events, true)
      | .data chunk =>
        if chunk = [] then (reader, events, true)
        else
          let (frames, reader) := reader.feed chunk
          let (reader, events) := frames.foldl offer (reader, events)
          reader.readLoop events (readBytes + chunk.length) results
    else (reader, events, false)

/-- The end of the pipe: what is left of a line is dropped. -/
def finish (reader : ProgressPipeReader) : ProgressPipeReader :=
  { reader with
    droppedSinceDrain := reader.droppedSinceDrain
      + if reader.buffer ≠ [] ∨ reader.discardUntilNewline = true then 1 else 0
    buffer := []
    discardUntilNewline := false
    closed := true }

/-- `drain`: the events it returns, the drops it reports, and the reader afterwards. -/
def drain (reader : ProgressPipeReader) (results : List ReadResult) :
    (List ProgressEvent × Nat) × ProgressPipeReader :=
  if reader.closed = true then (([], 0), reader)
  else
    let (reader, events, reachedEof) := reader.readLoop [] 0 results
    let reader := if reachedEof = true then reader.finish else reader
    ((events.drop (events.length - maxEventsPerDrain),
        reader.droppedSinceDrain + (events.length - maxEventsPerDrain)),
      { reader with droppedSinceDrain := 0 })

/-- One drain after the other: what each of them returned and reported. -/
def drainAll (reader : ProgressPipeReader) :
    List (List ReadResult) → List (List ProgressEvent × Nat) × ProgressPipeReader
  | [] => ([], reader)
  | results :: drains =>
    let (drained, reader) := reader.drain results
    let (more, reader) := reader.drainAll drains
    (drained :: more, reader)

end ProgressPipeReader

end Jobs

end OnchainBacktest
