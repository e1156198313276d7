import OnchainBacktest.Lib.Checked
import OnchainBacktest.Domain.Identifiers

/-!
# Jobs and attempts

The operational values of the single-host job supervisor.  A job is one durable command; an attempt
is one try at running it in a child process.  A resolved specification is kept as the bytes it is
stored as, with its identity and its type.
-/

set_option autoImplicit false

namespace OnchainBacktest

namespace Jobs

open Checked

/-! ## Identity -/

/-- Operational local job identifier. -/
structure JobId where
  value : String
  deriving DecidableEq, Repr

/-- Operational execution-attempt identifier. -/
structure AttemptId where
  value : String
  deriving DecidableEq, Repr

inductive JobType
  | prepareResearch
  | analyzeWallets
  | prepareDataset
  | compileReplay
  | compileDeliverySchedule
  | runBacktest
  | runSweep
  | buildFeatures
  | buildLabels
  | buildUniverse
  | trainModel
  | buildModelSchedule
  | predict
  | verifyArtifact
  | gc
  | backup
  | benchmark
  deriving DecidableEq, Repr

inductive AttemptState
  | queued
  | starting
  | running
  | succeeded
  | failed
  | cancelled
  | interrupted
  deriving DecidableEq, Repr

def AttemptState.value : AttemptState → String
  | queued => "QUEUED"
  | starting => "STARTING"
  | running => "RUNNING"
  | succeeded => "SUCCEEDED"
  | failed => "FAILED"
  | cancelled => "CANCELLED"
  | interrupted => "INTERRUPTED"

/-- A resolved command: its identity, its type, and the bytes it is stored as. -/
structure ResolvedJobSpec where
  specId : ContentDigest
  jobType : JobType
  canonicalBytes : List UInt8
  deriving DecidableEq

structure JobRecord where
  jobId : JobId
  spec : ResolvedJobSpec
  state : AttemptState
  stateVersion : Nat
  submittedAtNs : Nat
  updatedAtNs : Nat

structure JobAttempt where
  attemptId : AttemptId
  jobId : JobId
  spec : ResolvedJobSpec
  state : AttemptState
  stateVersion : Nat
  deriving DecidableEq

structure ProcessHandle where
  processId : Int
  startToken : String
  deriving DecidableEq

/-! ## Progress -/

/-- Bounded supervisor-owned read model of an attempt's progress. -/
structure JobProgressDetails where
  sequence : Nat
  level : String
  stage : String
  completedUnits : Option Nat
  totalUnits : Option Nat
  coalescedEvents : Nat
  droppedTransportFrames : Nat
  privateRssBytes : Option Nat
  totalRssBytes : Option Nat
  majorPageFaults : Option Nat
  temporaryDiskBytes : Option Nat

/-! ## Resources and policies -/

/-- Independent admission lanes, with separate concurrency ceilings. -/
inductive JobLane
  | build
  | run
  deriving DecidableEq, Repr

inductive AttemptFailureKind
  | transient
  | resourceExhausted
  | userError
  | internalError
  | timeout
  | orphaned
  | completionInvalid
  deriving DecidableEq, Repr

inductive AttemptFailureCode
  | spawnFailed
  | registrationFailed
  | childExited
  | childSignaled
  | timeout
  | orphanedOnRestart
  | completionMissing
  | completionInvalid
  | admissionLost
  | diskEmergency
  | memoryLimitExceeded
  | resourceObservationUnavailable
  | sustainedSwap
  | temporaryDiskQuotaExceeded
  deriving DecidableEq, Repr

structure AttemptFailure where
  kind : AttemptFailureKind
  code : AttemptFailureCode
  deriving DecidableEq

/-- Bounded retry policy, where `maxAttempts` includes the first try. -/
structure RetryPolicy where
  maxAttempts : Nat
  retryableKinds : List AttemptFailureKind
  baseBackoffNs : Nat
  maxBackoffNs : Nat
  attempts_pos : 0 < maxAttempts
  base_le : baseBackoffNs ≤ maxBackoffNs
  single_try : maxAttempts = 1 → retryableKinds = []

/-- When a failed attempt may be tried again; never, once its attempts are used up. -/
def RetryPolicy.retryNotBeforeNs (policy : RetryPolicy) (attemptNumber : Nat)
    (failure : AttemptFailure) (nowNs : Nat) : Option Nat :=
  if policy.maxAttempts ≤ attemptNumber ∨ failure.kind ∉ policy.retryableKinds then none
  else
    let exponent := min (attemptNumber - 1) 62
    some (nowNs + min (policy.baseBackoffNs * 2 ^ exponent) policy.maxBackoffNs)

structure JobResourceDemand where
  privateMemoryBytes : Nat
  nativeThreads : Nat
  ioUnits : Nat
  temporaryDiskBytes : Nat
  outputDiskBytes : Nat
  memory_pos : 0 < privateMemoryBytes
  threads_pos : 0 < nativeThreads
  io_pos : 0 < ioUnits

/-- Worst-case additional bytes, reserved until the attempt finishes. -/
def JobResourceDemand.reservedDiskBytes (demand : JobResourceDemand) : Nat :=
  demand.temporaryDiskBytes + demand.outputDiskBytes

/-- Operational execution policy, selected for a job type. -/
structure JobExecutionPolicy where
  lane : JobLane
  demand : JobResourceDemand
  timeoutNs : Nat
  leaseDurationNs : Nat
  retry : RetryPolicy
  memoryBreachSamples : Nat
  swapActivitySamples : Nat
  requireResourceObservation : Bool
  timeout_pos : 0 < timeoutNs
  lease_pos : 0 < leaseDurationNs
  memory_samples_pos : 0 < memoryBreachSamples
  swap_samples_pos : 0 < swapActivitySamples

structure ClaimedAttempt where
  attempt : JobAttempt
  attemptNumber : Nat

/-- The process metadata of a registered attempt. -/
structure RuntimeInfo where
  handle : ProcessHandle
  lane : JobLane
  demand : JobResourceDemand
  heartbeatAtNs : Nat
  leaseExpiresAtNs : Nat
  deadlineAtNs : Nat

/-- Durable restart record of an unfinished attempt; the process metadata is wholly present or
absent. -/
structure SupervisorAttempt where
  attempt : JobAttempt
  attemptNumber : Nat
  supervisorInstanceId : String
  runtime : Option RuntimeInfo

structure AttemptFinish where
  attempt : JobAttempt
  retryNotBeforeNs : Option Nat

/-- One output of a completed attempt. -/
structure CompletionOutput where
  artifactId : ContentDigest
  manifestDigest : ContentDigest
  deriving DecidableEq

/-- What a child publishes when it has finished. -/
structure AttemptCompletionReceipt where
  attemptId : AttemptId
  resolvedSpecId : ContentDigest
  resultArtifactId : ContentDigest
  outputs : List CompletionOutput
  deriving DecidableEq

/-! ## Errors -/

/-- An exception of the job queue. -/
inductive QueueFault
  /-- `ValueError`. -/
  | value (message : String)
  /-- `InvalidIdempotencyKeyError`. -/
  | invalidIdempotencyKey
  /-- `IdempotencyConflictError`. -/
  | idempotencyConflict (jobType : JobType) (idempotencyKey : String)
  /-- `JobNotFoundError`. -/
  | jobNotFound (jobId : JobId)
  /-- `AttemptNotFoundError`. -/
  | attemptNotFound (attemptId : AttemptId)
  /-- `JobStateConflictError`. -/
  | jobStateConflict (jobId : JobId) (currentState : AttemptState) (operation : String)
  /-- `UnverifiedJobCompletionError`. -/
  | unverifiedJobCompletion
  /-- `QueueCorruptionError`. -/
  | queueCorruption (message : String)
  /-- `JobQueueError`, what a violated constraint of the database becomes. -/
  | jobQueue
  deriving DecidableEq

/-- A text the queue stores: trimmed, not empty, not long and without control characters. -/
def validateNonEmpty (value field : String) (maxLength : Nat) : Except QueueFault Unit := do
  refuseIf (nonemptyTrimmed value = false) (.value (field ++ " must be non-empty and trimmed"))
  refuseIf (maxLength < value.length) (.value (field ++ " is too long"))
  refuseIf (value.toList.any (fun c => c.toNat < 32) = true)
    (.value (field ++ " must not contain control characters"))

def validateIdempotencyKey (value : String) : Except QueueFault Unit :=
  match validateNonEmpty value "idempotency_key" 512 with
  | .ok _ => .ok ()
  | .error _ => .error .invalidIdempotencyKey

end Jobs

end OnchainBacktest
