import Mathlib.Data.List.Sort
import Mathlib.Data.Prod.Lex
import Mathlib.Data.String.Basic
import OnchainBacktest.Lib.Dict
import OnchainBacktest.Jobs.JobModels

/-!
# The durable job queue

The tables of the job database and the operations on them.  Each operation is one immediate
transaction: it returns the tables it leaves and its result, or a fault, and after a fault the
tables are as they were.

Generated identifiers and the wall clock are arguments.  A generated identifier that is taken
violates the primary key of its table, as any other second row under one key does.
-/

set_option autoImplicit false

namespace OnchainBacktest

namespace Jobs

open Checked

/-! ## Tables -/

structure JobRow where
  spec : ResolvedJobSpec
  idempotencyKey : String
  state : AttemptState
  stateVersion : Nat
  cancelRequested : Bool
  currentAttemptId : Option AttemptId
  submittedAtNs : Nat
  updatedAtNs : Nat

structure AttemptRow where
  jobId : JobId
  attemptNumber : Nat
  supervisorInstanceId : String
  state : AttemptState
  stateVersion : Nat
  resultArtifactId : Option ContentDigest
  createdAtNs : Nat
  updatedAtNs : Nat

/-- The process and the lease of a registered attempt. -/
structure RuntimeRow where
  supervisorInstanceId : String
  handle : ProcessHandle
  lane : JobLane
  demand : JobResourceDemand
  registeredAtNs : Nat
  heartbeatAtNs : Nat
  leaseExpiresAtNs : Nat
  deadlineAtNs : Nat

structure FailureRow where
  failure : AttemptFailure
  retryNotBeforeNs : Option Nat
  recordedAtNs : Nat

structure RetryRow where
  previousAttemptId : AttemptId
  notBeforeNs : Nat
  createdAtNs : Nat

structure ReceiptRow where
  receipt : AttemptCompletionReceipt
  indexedAtNs : Nat

structure EventRow where
  jobId : JobId
  attemptId : Option AttemptId
  eventType : String
  stateVersion : Nat
  createdAtNs : Nat
  details : Option JobProgressDetails

structure JobDatabase where
  jobs : Dict JobId JobRow
  jobAttempts : Dict AttemptId AttemptRow
  attemptRuntime : Dict AttemptId RuntimeRow
  attemptFailures : Dict AttemptId FailureRow
  jobRetrySchedule : Dict JobId RetryRow
  completionReceipts : Dict AttemptId ReceiptRow
  jobEvents : List EventRow

def JobDatabase.empty : JobDatabase :=
  ⟨Dict.empty, Dict.empty, Dict.empty, Dict.empty, Dict.empty, Dict.empty, []⟩

/-- The states nothing leaves again, but by a manual retry of the job. -/
def AttemptState.isTerminal (state : AttemptState) : Bool :=
  state == .succeeded || state == .failed || state == .cancelled || state == .interrupted

/-- The states of an attempt in flight. -/
def AttemptState.isUnfinished (state : AttemptState) : Bool :=
  state == .starting || state == .running

/-- `_LEGAL_TRANSITIONS`. -/
def AttemptState.legalTransitions : AttemptState → List AttemptState
  | starting => [.running, .failed, .cancelled, .interrupted]
  | running => [.succeeded, .failed, .cancelled, .interrupted]
  | _ => []

/-! ## Rows -/

/-- Insert a row under a new primary key. -/
def insertRow {κ ν : Type} [DecidableEq κ] (table : Dict κ ν) (key : κ) (row : ν) :
    Except QueueFault (Dict κ ν) :=
  match table.get? key with
  | some _ => .error .jobQueue
  | none => .ok (table.set key row)

def JobDatabase.appendJobEvent (db : JobDatabase) (jobId : JobId) (attemptId : Option AttemptId)
    (eventType : String) (stateVersion createdAtNs : Nat)
    (details : Option JobProgressDetails) : JobDatabase :=
  { db with
    jobEvents := db.jobEvents ++ [⟨jobId, attemptId, eventType, stateVersion, createdAtNs, details⟩] }

/-- An attempt, joined with its job. -/
def JobDatabase.attemptRow (db : JobDatabase) (attemptId : AttemptId) :
    Except QueueFault (AttemptRow × JobRow) :=
  match db.jobAttempts.get? attemptId with
  | none => .error (.attemptNotFound attemptId)
  | some attempt =>
    match db.jobs.get? attempt.jobId with
    | none => .error (.attemptNotFound attemptId)
    | some job => .ok (attempt, job)

/-- The attempt is the one in flight of its job, at the expected version and state. -/
def requireCurrentAttempt (attemptId : AttemptId) (attempt : AttemptRow) (job : JobRow)
    (expectedVersion : Nat) (expectedState : AttemptState) (operation : String) :
    Except QueueFault Unit := do
  refuseIf (job.currentAttemptId ≠ some attemptId)
    (.jobStateConflict attempt.jobId job.state operation)
  refuseIf (attempt.stateVersion ≠ expectedVersion)
    (.jobStateConflict attempt.jobId job.state operation)
  refuseIf (job.stateVersion ≠ expectedVersion)
    (.queueCorruption "job and current attempt versions diverged")
  refuseIf (attempt.state ≠ job.state)
    (.queueCorruption "job and current attempt states diverged")
  refuseIf (attempt.state ≠ expectedState)
    (.jobStateConflict attempt.jobId attempt.state operation)

def JobRow.record (jobId : JobId) (row : JobRow) : JobRecord :=
  ⟨jobId, row.spec, row.state, row.stateVersion, row.submittedAtNs, row.updatedAtNs⟩

/-! ## Requests -/

/-- Submit a command once under its idempotency key. -/
def JobDatabase.submit (db : JobDatabase) (jobId : JobId) (now : Nat) (spec : ResolvedJobSpec)
    (idempotencyKey : String) : Except QueueFault (JobDatabase × JobRecord) := do
  validateIdempotencyKey idempotencyKey
  match db.jobs.entries.find? fun e =>
      e.2.spec.jobType == spec.jobType && e.2.idempotencyKey == idempotencyKey with
  | some existing => do
    refuseIf (existing.2.spec ≠ spec) (.idempotencyConflict spec.jobType idempotencyKey)
    .ok (db, existing.2.record existing.1)
  | none => do
    let row : JobRow :=
      { spec, idempotencyKey, state := .queued, stateVersion := 0, cancelRequested := false,
        currentAttemptId := none, submittedAtNs := now, updatedAtNs := now }
    let jobs ← insertRow db.jobs jobId row
    .ok ({ db with jobs }.appendJobEvent jobId none "JOB_SUBMITTED" 0 now none, row.record jobId)

/-- Cancel a job that has not started, or ask for the cancellation of one that has. -/
def JobDatabase.requestCancel (db : JobDatabase) (now : Nat) (jobId : JobId) :
    Except QueueFault JobDatabase :=
  match db.jobs.get? jobId with
  | none => .error (.jobNotFound jobId)
  | some row =>
    if row.state = .cancelled then .ok db
    else if row.state.isTerminal then .error (.jobStateConflict jobId row.state "cancel")
    else if row.cancelRequested then .ok db
    else if row.state = .queued then
      .ok ({ db with
          jobs := db.jobs.set jobId
            { row with
              cancelRequested := true
              state := .cancelled
              stateVersion := row.stateVersion + 1
              updatedAtNs := now }
          jobRetrySchedule := db.jobRetrySchedule.erase jobId }.appendJobEvent jobId none
        "JOB_CANCELLED_BEFORE_CLAIM" (row.stateVersion + 1) now none)
    else
      .ok ({ db with
          jobs := db.jobs.set jobId { row with cancelRequested := true, updatedAtNs := now }
          }.appendJobEvent jobId none "JOB_CANCEL_REQUESTED" row.stateVersion now none)

/-- Put a failed or interrupted job back into the queue. -/
def JobDatabase.requestRetry (db : JobDatabase) (now : Nat) (jobId : JobId) :
    Except QueueFault (JobDatabase × JobRecord) :=
  match db.jobs.get? jobId with
  | none => .error (.jobNotFound jobId)
  | some row => do
    refuseIf (row.state ≠ .failed ∧ row.state ≠ .interrupted)
      (.jobStateConflict jobId row.state "retry")
    let updated : JobRow :=
      { row with
        state := .queued
        stateVersion := row.stateVersion + 1
        cancelRequested := false
        currentAttemptId := none
        updatedAtNs := now }
    .ok ({ db with
        jobs := db.jobs.set jobId updated
        jobRetrySchedule := db.jobRetrySchedule.erase jobId }.appendJobEvent jobId none
      "JOB_MANUAL_RETRY_REQUESTED" (row.stateVersion + 1) now none, updated.record jobId)

/-! ## Claiming -/

/-- A job that may be claimed now. -/
def JobDatabase.claimable (db : JobDatabase) (jobTypes : List JobType) (nowNs : Nat)
    (jobId : JobId) (row : JobRow) : Bool :=
  row.state == .queued && !row.cancelRequested && jobTypes.contains row.spec.jobType &&
    (db.jobRetrySchedule.get? jobId).all fun retry => retry.notBeforeNs ≤ nowNs

/-- `ORDER BY submitted_at_ns, job_id`. -/
def submittedBefore (a b : JobId × JobRow) : Bool :=
  toLex (a.2.submittedAtNs, a.1.value) ≤ toLex (b.2.submittedAtNs, b.1.value)

/-- The number of a job's next attempt. -/
def JobDatabase.nextAttemptNumber (db : JobDatabase) (jobId : JobId) : Nat :=
  ((db.jobAttempts.entries.filter fun e => e.2.jobId == jobId).map
    fun e => e.2.attemptNumber).foldl max 0 + 1

/-- Claim the oldest job of the given types that is due. -/
def JobDatabase.claimNextForTypes (db : JobDatabase) (attemptId : AttemptId)
    (supervisorInstanceId : String) (jobTypes : List JobType) (nowNs : Nat) :
    Except QueueFault (JobDatabase × Option ClaimedAttempt) := do
  validateNonEmpty supervisorInstanceId "supervisor_instance_id" 256
  if jobTypes = [] then .ok (db, none)
  else do
    refuseIf (¬ jobTypes.Nodup) (.value "job_types must not contain duplicates")
    match ((db.jobs.entries.filter fun e => db.claimable jobTypes nowNs e.1 e.2).insertionSort
        fun a b => submittedBefore a b = true).head? with
    | none => .ok (db, none)
    | some (jobId, row) => do
      let nextVersion := row.stateVersion + 1
      let attemptNumber := db.nextAttemptNumber jobId
      let jobAttempts ← insertRow db.jobAttempts attemptId
        { jobId, attemptNumber, supervisorInstanceId, state := .starting,
          stateVersion := nextVersion, resultArtifactId := none, createdAtNs := nowNs,
          updatedAtNs := nowNs }
      .ok ({ db with
          jobAttempts
          jobs := db.jobs.set jobId
            { row with
              state := .starting
              stateVersion := nextVersion
              currentAttemptId := some attemptId
              updatedAtNs := nowNs }
          jobRetrySchedule := db.jobRetrySchedule.erase jobId }.appendJobEvent jobId
        (some attemptId) "ATTEMPT_CLAIMED" nextVersion nowNs none,
        some ⟨⟨attemptId, jobId, row.spec, .starting, nextVersion⟩, attemptNumber⟩)

/-! ## Transitions -/

/-- What success asks of a receipt, and every other state of its absence. -/
def checkCompletion (attempt : AttemptRow) (job : JobRow) (newState : AttemptState)
    (resultArtifactId : Option ContentDigest) (receipt : Option AttemptCompletionReceipt) :
    Except QueueFault Unit := do
  if newState = .succeeded then do
    refuseIf (resultArtifactId = none) (.value "SUCCEEDED requires result_artifact_id")
    refuseIf (job.cancelRequested = true)
      (.jobStateConflict attempt.jobId attempt.state "transition")
    refuseIf (∃ r ∈ receipt, r.resolvedSpecId.hex ≠ job.spec.specId.hex)
      (.jobStateConflict attempt.jobId attempt.state "transition")
  else refuseIf (resultArtifactId ≠ none) (.value "result_artifact_id is only valid for SUCCEEDED")

/-- The tables after an attempt in flight and its job moved to a state. -/
def JobDatabase.moveAttempt (db : JobDatabase) (attemptId : AttemptId) (attempt : AttemptRow)
    (job : JobRow) (newState : AttemptState) (resultArtifactId : Option ContentDigest)
    (now : Nat) : JobDatabase :=
  { db with
    jobAttempts := db.jobAttempts.set attemptId
      { attempt with
        state := newState
        stateVersion := attempt.stateVersion + 1
        resultArtifactId := resultArtifactId
        updatedAtNs := now }
    jobs := db.jobs.set attempt.jobId
      { job with
        state := newState
        stateVersion := attempt.stateVersion + 1
        updatedAtNs := now } }

/-- Index the receipt of a completed attempt. -/
def JobDatabase.indexCompletionReceipt (db : JobDatabase)
    (receipt : Option AttemptCompletionReceipt) (indexedAtNs : Nat) :
    Except QueueFault JobDatabase :=
  match receipt with
  | none => .ok db
  | some receipt => do
    let completionReceipts ← insertRow db.completionReceipts receipt.attemptId
      ⟨receipt, indexedAtNs⟩
    .ok { db with completionReceipts }

/-- Move the current attempt of a job to a legal next state, by compare and swap. -/
def JobDatabase.transitionWithBarrier (db : JobDatabase) (attemptId : AttemptId)
    (expectedVersion : Nat) (newState : AttemptState) (resultArtifactId : Option ContentDigest)
    (allowSuccess : Bool) (now : Nat) (completionReceipt : Option AttemptCompletionReceipt) :
    Except QueueFault (JobDatabase × JobAttempt) := do
  refuseIf (newState = .succeeded ∧ allowSuccess = false) .unverifiedJobCompletion
  refuseIf (¬ (newState = .succeeded ↔ completionReceipt ≠ none))
    (.value "verified success and completion receipt must be supplied together")
  let (attempt, job) ← db.attemptRow attemptId
  refuseIf (job.currentAttemptId ≠ some attemptId)
    (.jobStateConflict attempt.jobId job.state "transition")
  refuseIf (attempt.stateVersion ≠ expectedVersion)
    (.jobStateConflict attempt.jobId job.state "transition")
  refuseIf (job.stateVersion ≠ attempt.stateVersion)
    (.queueCorruption "job and current attempt versions diverged")
  refuseIf (job.state ≠ attempt.state)
    (.queueCorruption "job and current attempt states diverged")
  refuseIf (newState ∉ attempt.state.legalTransitions)
    (.jobStateConflict attempt.jobId attempt.state "transition")
  checkCompletion attempt job newState resultArtifactId completionReceipt
  refuseIf (newState = .cancelled ∧ job.cancelRequested = false)
    (.jobStateConflict attempt.jobId attempt.state "transition")
  let db ← (db.moveAttempt attemptId attempt job newState resultArtifactId now
    ).indexCompletionReceipt completionReceipt now
  let db := if newState.isTerminal then
      { db with attemptRuntime := db.attemptRuntime.erase attemptId } else db
  .ok (db.appendJobEvent attempt.jobId (some attemptId) ("ATTEMPT_" ++ newState.value)
      (attempt.stateVersion + 1) now none,
    ⟨attemptId, attempt.jobId, job.spec, newState, attempt.stateVersion + 1⟩)

/-- The public transition; it never reports success. -/
def JobDatabase.transition (db : JobDatabase) (attemptId : AttemptId) (expectedVersion : Nat)
    (newState : AttemptState) (resultArtifactId : Option ContentDigest) (now : Nat) :
    Except QueueFault (JobDatabase × JobAttempt) := do
  refuseIf (newState = .succeeded) .unverifiedJobCompletion
  db.transitionWithBarrier attemptId expectedVersion newState resultArtifactId false now none

/-- Success, once the receipt has been verified. -/
def JobDatabase.completeVerified (db : JobDatabase) (attemptId : AttemptId)
    (expectedVersion : Nat) (receipt : AttemptCompletionReceipt) (now : Nat) :
    Except QueueFault (JobDatabase × JobAttempt) := do
  refuseIf (receipt.attemptId ≠ attemptId)
    (.value "completion receipt belongs to another attempt")
  db.transitionWithBarrier attemptId expectedVersion .succeeded (some receipt.resultArtifactId)
    true now (some receipt)

def JobDatabase.finishCancelled (db : JobDatabase) (attemptId : AttemptId)
    (expectedVersion nowNs : Nat) : Except QueueFault (JobDatabase × JobAttempt) :=
  db.transitionWithBarrier attemptId expectedVersion .cancelled none false nowNs none

/-! ## Processes -/

/-- Record the process of a claimed attempt, which starts to run. -/
def JobDatabase.registerProcess (db : JobDatabase) (claimed : ClaimedAttempt)
    (handle : ProcessHandle) (policy : JobExecutionPolicy) (supervisorInstanceId : String)
    (nowNs : Nat) : Except QueueFault (JobDatabase × SupervisorAttempt) := do
  validateNonEmpty supervisorInstanceId "supervisor_instance_id" 256
  validateNonEmpty handle.startToken "process_start_token" 512
  refuseIf (handle.processId ≤ 0) (.value "process_id must be positive")
  let attemptId := claimed.attempt.attemptId
  let (attempt, job) ← db.attemptRow attemptId
  requireCurrentAttempt attemptId attempt job claimed.attempt.stateVersion .starting
    "register process"
  refuseIf (attempt.supervisorInstanceId ≠ supervisorInstanceId)
    (.jobStateConflict attempt.jobId .starting "register process")
  refuseIf (attempt.attemptNumber ≠ claimed.attemptNumber)
    (.queueCorruption "claimed attempt number changed")
  refuseIf (job.cancelRequested = true)
    (.jobStateConflict attempt.jobId .starting "register process")
  let runtime : RuntimeRow :=
    { supervisorInstanceId, handle, lane := policy.lane, demand := policy.demand,
      registeredAtNs := nowNs, heartbeatAtNs := nowNs,
      leaseExpiresAtNs := nowNs + policy.leaseDurationNs,
      deadlineAtNs := nowNs + policy.timeoutNs }
  let attemptRuntime ← insertRow db.attemptRuntime attemptId runtime
  let db := { db with attemptRuntime }.moveAttempt attemptId attempt job .running
    attempt.resultArtifactId nowNs
  .ok (db.appendJobEvent attempt.jobId (some attemptId) "ATTEMPT_RUNNING"
      (attempt.stateVersion + 1) nowNs none,
    { attempt :=
        ⟨attemptId, attempt.jobId, claimed.attempt.spec, .running, attempt.stateVersion + 1⟩
      attemptNumber := claimed.attemptNumber
      supervisorInstanceId := supervisorInstanceId
      runtime := some ⟨handle, policy.lane, policy.demand, nowNs,
        nowNs + policy.leaseDurationNs, nowNs + policy.timeoutNs⟩ })

/-- Extend the lease of a running attempt. -/
def JobDatabase.heartbeat (db : JobDatabase) (attemptId : AttemptId) (expectedVersion : Nat)
    (supervisorInstanceId : String) (nowNs leaseDurationNs : Nat) :
    Except QueueFault JobDatabase := do
  validateNonEmpty supervisorInstanceId "supervisor_instance_id" 256
  refuseIf (leaseDurationNs = 0)
    (.value "heartbeat time must be non-negative and lease positive")
  let (attempt, job) ← db.attemptRow attemptId
  requireCurrentAttempt attemptId attempt job expectedVersion .running "heartbeat"
  match db.attemptRuntime.get? attemptId with
  | none => .error (.queueCorruption "running attempt has no matching process lease")
  | some runtime => do
    refuseIf (runtime.supervisorInstanceId ≠ supervisorInstanceId)
      (.queueCorruption "running attempt has no matching process lease")
    -- the table keeps a heartbeat from before the registration out
    refuseIf (nowNs < runtime.registeredAtNs) .jobQueue
    .ok { db with
      attemptRuntime := db.attemptRuntime.set attemptId
        { runtime with
          heartbeatAtNs := nowNs
          leaseExpiresAtNs := nowNs + leaseDurationNs } }

/-- The sequence of an attempt's last progress frame. -/
def JobDatabase.lastProgress (db : JobDatabase) (attemptId : AttemptId) : Option Nat :=
  (db.jobEvents.filterMap fun e =>
    if e.attemptId = some attemptId then e.details.map (·.sequence) else none).getLast?

def MAX_PROGRESS_EVENTS_PER_ATTEMPT : Nat := 256

/-- Drop the oldest progress frames of an attempt beyond the newest ones that are kept. -/
def trimProgress (attemptId : AttemptId) (events : List EventRow) : List EventRow :=
  let isFrame (e : EventRow) : Bool := e.attemptId == some attemptId && e.details.isSome
  let excess := (events.filter isFrame).length - MAX_PROGRESS_EVENTS_PER_ATTEMPT
  (events.foldl (fun (acc : Nat × List EventRow) e =>
    if isFrame e ∧ 0 < acc.1 then (acc.1 - 1, acc.2) else (acc.1, acc.2 ++ [e])) (excess, [])).2

/-- Persist one coalesced progress frame. -/
def JobDatabase.recordProgress (db : JobDatabase) (attemptId : AttemptId) (expectedVersion : Nat)
    (details : JobProgressDetails) (supervisorInstanceId : String) (nowNs : Nat) :
    Except QueueFault JobDatabase := do
  validateNonEmpty supervisorInstanceId "supervisor_instance_id" 256
  let (attempt, job) ← db.attemptRow attemptId
  match db.attemptRuntime.get? attemptId with
  | none => .error (.attemptNotFound attemptId)
  | some runtime => do
    requireCurrentAttempt attemptId attempt job expectedVersion .running "record progress"
    refuseIf (runtime.supervisorInstanceId ≠ supervisorInstanceId)
      (.jobStateConflict attempt.jobId .running "record progress")
    refuseIf (∃ previous ∈ db.lastProgress attemptId, details.sequence ≤ previous)
      (.value "progress sequence must increase within an attempt")
    let db := db.appendJobEvent attempt.jobId (some attemptId) "ATTEMPT_PROGRESS" expectedVersion
      nowNs (some details)
    .ok { db with jobEvents := trimProgress attemptId db.jobEvents }

/-! ## Unsuccessful ends -/

/-- The end of a failed attempt: an acknowledged cancellation comes first. -/
def terminalStateOf (cancelRequested : Bool) (failure : AttemptFailure) : AttemptState :=
  if cancelRequested then .cancelled
  else if failure.kind = .orphaned then .interrupted
  else .failed

/-- End the attempt in flight of a job, and queue the job again when it may be retried. -/
def JobDatabase.finishUnsuccessful (db : JobDatabase) (attemptId : AttemptId)
    (expectedVersion : Nat) (failure : AttemptFailure) (retryNotBeforeNs : Option Nat)
    (nowNs : Nat) : Except QueueFault (JobDatabase × AttemptFinish) := do
  refuseIf (∃ t ∈ retryNotBeforeNs, t < nowNs)
    (.value "retry_not_before_ns cannot be in the past")
  let (attempt, job) ← db.attemptRow attemptId
  refuseIf (attempt.state.isUnfinished = false)
    (.jobStateConflict attempt.jobId attempt.state "finish unsuccessful attempt")
  requireCurrentAttempt attemptId attempt job expectedVersion attempt.state
    "finish unsuccessful attempt"
  let effectiveRetryAt := if job.cancelRequested then none else retryNotBeforeNs
  let terminalState := terminalStateOf job.cancelRequested failure
  let attemptFailures ← insertRow db.attemptFailures attemptId ⟨failure, effectiveRetryAt, nowNs⟩
  let ended := { db with
    attemptFailures
    attemptRuntime := db.attemptRuntime.erase attemptId
    }.moveAttempt attemptId attempt job terminalState attempt.resultArtifactId nowNs
  let finished : AttemptFinish :=
    ⟨⟨attemptId, attempt.jobId, job.spec, terminalState, attempt.stateVersion + 1⟩,
      effectiveRetryAt⟩
  let ended := ended.appendJobEvent attempt.jobId (some attemptId)
    ("ATTEMPT_" ++ terminalState.value) (attempt.stateVersion + 1) nowNs none
  match effectiveRetryAt with
  | none => .ok (ended, finished)
  | some notBeforeNs => do
    let jobRetrySchedule ← insertRow db.jobRetrySchedule attempt.jobId
      ⟨attemptId, notBeforeNs, nowNs⟩
    .ok ({ ended with
        jobRetrySchedule
        jobs := db.jobs.set attempt.jobId
          { job with
            state := .queued
            stateVersion := attempt.stateVersion + 1
            currentAttemptId := none
            updatedAtNs := nowNs } }.appendJobEvent attempt.jobId (some attemptId)
      "JOB_RETRY_SCHEDULED" (attempt.stateVersion + 1) nowNs none, finished)

/-! ## Reading -/

/-- The record of an attempt in flight. -/
def JobDatabase.unfinishedRecord (db : JobDatabase) (attemptId : AttemptId)
    (attempt : AttemptRow) (job : JobRow) : Except QueueFault SupervisorAttempt := do
  requireCurrentAttempt attemptId attempt job attempt.stateVersion attempt.state
    "list unfinished attempts"
  let runtime := db.attemptRuntime.get? attemptId
  refuseIf (¬ (attempt.state = .running ↔ runtime.isSome))
    (.queueCorruption "unfinished attempt process metadata is inconsistent")
  refuseIf (∃ r ∈ runtime, r.supervisorInstanceId ≠ attempt.supervisorInstanceId)
    (.queueCorruption "attempt and runtime supervisor IDs disagree")
  .ok
    { attempt := ⟨attemptId, attempt.jobId, job.spec, attempt.state, attempt.stateVersion⟩
      attemptNumber := attempt.attemptNumber
      supervisorInstanceId := attempt.supervisorInstanceId
      runtime := runtime.map fun r =>
        ⟨r.handle, r.lane, r.demand, r.heartbeatAtNs, r.leaseExpiresAtNs, r.deadlineAtNs⟩ }

/-- The rows of the attempts in flight, each with its job. -/
def JobDatabase.unfinishedRows (db : JobDatabase) : List (AttemptId × AttemptRow × JobRow) :=
  (db.jobAttempts.entries.filterMap fun e =>
    match db.jobs.get? e.2.jobId with
    | none => none
    | some job =>
      if e.2.state.isUnfinished ∧ job.currentAttemptId = some e.1 then some (e.1, e.2, job)
      else none).insertionSort fun a b =>
    toLex (a.2.1.createdAtNs, a.1.value) ≤ toLex (b.2.1.createdAtNs, b.1.value)

/-- Every attempt in flight, oldest first. -/
def JobDatabase.listUnfinishedAttempts (db : JobDatabase) :
    Except QueueFault (List SupervisorAttempt) :=
  db.unfinishedRows.mapM fun row => db.unfinishedRecord row.1 row.2.1 row.2.2

def JobDatabase.isCancelRequested (db : JobDatabase) (jobId : JobId) : Except QueueFault Bool :=
  match db.jobs.get? jobId with
  | none => .error (.jobNotFound jobId)
  | some row => .ok row.cancelRequested

end Jobs

end OnchainBacktest
