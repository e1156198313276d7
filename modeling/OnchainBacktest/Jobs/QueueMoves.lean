import OnchainBacktest.Jobs.JobQueue

/-!
# What a call can do to the job database

Every public operation of the queue is one transaction, and what it can do to the tables is one of
a dozen moves.  The moves are given with the tables they leave, so whatever holds of every move
holds of every call: no later proof looks into an operation again.

## What is here

* `QueueCall` — a call of the queue, with the identifiers and the times it draws.
* `JobDatabase.apply` — the database after a call: a refused call leaves it as it was.
* `QueueMove` — the moves; `QueueCall.run_move` says that an accepted call is one of them.
* `JobDatabase.Reachable` — the databases any sequence of calls can leave.
-/

set_option autoImplicit false

namespace OnchainBacktest

namespace Jobs

open Checked

/-! ## Calls -/

/-- A call of the queue, with the identifiers and the times it draws. -/
inductive QueueCall
  | submit (jobId : JobId) (now : Nat) (spec : ResolvedJobSpec) (idempotencyKey : String)
  | requestCancel (now : Nat) (jobId : JobId)
  | requestRetry (now : Nat) (jobId : JobId)
  | claimNextForTypes (attemptId : AttemptId) (supervisorInstanceId : String)
      (jobTypes : List JobType) (nowNs : Nat)
  | transition (attemptId : AttemptId) (expectedVersion : Nat) (newState : AttemptState)
      (resultArtifactId : Option ContentDigest) (now : Nat)
  | registerProcess (claimed : ClaimedAttempt) (handle : ProcessHandle)
      (policy : JobExecutionPolicy) (supervisorInstanceId : String) (nowNs : Nat)
  | heartbeat (attemptId : AttemptId) (expectedVersion : Nat) (supervisorInstanceId : String)
      (nowNs leaseDurationNs : Nat)
  | recordProgress (attemptId : AttemptId) (expectedVersion : Nat) (details : JobProgressDetails)
      (supervisorInstanceId : String) (nowNs : Nat)
  | finishUnsuccessful (attemptId : AttemptId) (expectedVersion : Nat) (failure : AttemptFailure)
      (retryNotBeforeNs : Option Nat) (nowNs : Nat)
  | finishCancelled (attemptId : AttemptId) (expectedVersion nowNs : Nat)
  | completeVerified (attemptId : AttemptId) (expectedVersion : Nat)
      (receipt : AttemptCompletionReceipt) (now : Nat)

/-- The tables a call leaves, or its fault. -/
def QueueCall.run (db : JobDatabase) : QueueCall → Except QueueFault JobDatabase
  | submit jobId now spec key => Prod.fst <$> db.submit jobId now spec key
  | requestCancel now jobId => db.requestCancel now jobId
  | requestRetry now jobId => Prod.fst <$> db.requestRetry now jobId
  | claimNextForTypes attemptId supervisor types now =>
    Prod.fst <$> db.claimNextForTypes attemptId supervisor types now
  | transition attemptId version state result now =>
    Prod.fst <$> db.transition attemptId version state result now
  | registerProcess claimed handle policy supervisor now =>
    Prod.fst <$> db.registerProcess claimed handle policy supervisor now
  | heartbeat attemptId version supervisor now lease =>
    db.heartbeat attemptId version supervisor now lease
  | recordProgress attemptId version details supervisor now =>
    db.recordProgress attemptId version details supervisor now
  | finishUnsuccessful attemptId version failure retryAt now =>
    Prod.fst <$> db.finishUnsuccessful attemptId version failure retryAt now
  | finishCancelled attemptId version now =>
    Prod.fst <$> db.finishCancelled attemptId version now
  | completeVerified attemptId version receipt now =>
    Prod.fst <$> db.completeVerified attemptId version receipt now

/-- The database after a call: a fault rolls the transaction back. -/
def JobDatabase.apply (db : JobDatabase) (call : QueueCall) : JobDatabase :=
  match call.run db with
  | .ok db' => db'
  | .error _ => db

/-- The database after a sequence of calls. -/
def JobDatabase.applyAll (db : JobDatabase) (calls : List QueueCall) : JobDatabase :=
  calls.foldl JobDatabase.apply db

/-- The databases that any sequence of calls can leave. -/
inductive JobDatabase.Reachable : JobDatabase → Prop
  | empty : Reachable JobDatabase.empty
  | call {db : JobDatabase} (before : Reachable db) (call : QueueCall) : Reachable (db.apply call)

/-! ## Moves -/

/-- An attempt that is the current one of its job, at the same state and version. -/
structure InFlight (db : JobDatabase) (attemptId : AttemptId) (attempt : AttemptRow)
    (job : JobRow) : Prop where
  attempt_eq : db.jobAttempts.get? attemptId = some attempt
  job_eq : db.jobs.get? attempt.jobId = some job
  current : job.currentAttemptId = some attemptId
  version : job.stateVersion = attempt.stateVersion
  state : job.state = attempt.state

/-- An attempt row that moved to a state. -/
def AttemptRow.moved (attempt : AttemptRow) (newState : AttemptState)
    (resultArtifactId : Option ContentDigest) (now : Nat) : AttemptRow :=
  { attempt with
    state := newState
    stateVersion := attempt.stateVersion + 1
    resultArtifactId := resultArtifactId
    updatedAtNs := now }

/-- The row of a job whose current attempt moved to a state. -/
def JobRow.moved (job : JobRow) (attempt : AttemptRow) (newState : AttemptState)
    (now : Nat) : JobRow :=
  { job with
    state := newState
    stateVersion := attempt.stateVersion + 1
    updatedAtNs := now }

/-- The moves only one call makes, told apart from the others. -/
inductive MoveKind
  | plain
  /-- A job is queued again by hand. -/
  | byHand (jobId : JobId)
  /-- An attempt runs without a process. -/
  | unbacked (attemptId : AttemptId)

/-- What a call can do to the tables. -/
inductive QueueMove (db : JobDatabase) : MoveKind → JobDatabase → Prop
  /-- Nothing but the log. -/
  | logged (events : List EventRow) : QueueMove db .plain { db with jobEvents := events }
  /-- The lease of a process is renewed. -/
  | renewed (attemptId : AttemptId) (old new : RuntimeRow)
      (known : db.attemptRuntime.get? attemptId = some old)
      (same : new.supervisorInstanceId = old.supervisorInstanceId) :
      QueueMove db .plain { db with attemptRuntime := db.attemptRuntime.set attemptId new }
  | submitted (jobId : JobId) (row : JobRow) (events : List EventRow)
      (absent : db.jobs.get? jobId = none) (queued : row.state = .queued)
      (uncancelled : row.cancelRequested = false) (idle : row.currentAttemptId = none) :
      QueueMove db .plain { db with jobs := db.jobs.set jobId row, jobEvents := events }
  /-- A queued job is cancelled. -/
  | withdrawn (jobId : JobId) (row : JobRow) (now : Nat) (events : List EventRow)
      (known : db.jobs.get? jobId = some row) (queued : row.state = .queued) :
      QueueMove db .plain { db with
        jobs := db.jobs.set jobId
          { row with
            cancelRequested := true
            state := .cancelled
            stateVersion := row.stateVersion + 1
            updatedAtNs := now }
        jobRetrySchedule := db.jobRetrySchedule.erase jobId
        jobEvents := events }
  /-- A job in flight is asked to stop. -/
  | asked (jobId : JobId) (row : JobRow) (now : Nat) (events : List EventRow)
      (known : db.jobs.get? jobId = some row) (live : row.state.isTerminal = false)
      (started : row.state ≠ .queued) :
      QueueMove db .plain { db with
        jobs := db.jobs.set jobId { row with cancelRequested := true, updatedAtNs := now }
        jobEvents := events }
  /-- A failed or interrupted job is queued again by hand. -/
  | retried (jobId : JobId) (row : JobRow) (now : Nat) (events : List EventRow)
      (known : db.jobs.get? jobId = some row)
      (ended : row.state = .failed ∨ row.state = .interrupted) :
      QueueMove db (.byHand jobId) { db with
        jobs := db.jobs.set jobId
          { row with
            state := .queued
            stateVersion := row.stateVersion + 1
            cancelRequested := false
            currentAttemptId := none
            updatedAtNs := now }
        jobRetrySchedule := db.jobRetrySchedule.erase jobId
        jobEvents := events }
  | claimed (jobId : JobId) (row : JobRow) (attemptId : AttemptId) (attempt : AttemptRow)
      (now : Nat) (events : List EventRow) (known : db.jobs.get? jobId = some row)
      (queued : row.state = .queued) (fresh : db.jobAttempts.get? attemptId = none)
      (of_job : attempt.jobId = jobId) (starting : attempt.state = .starting)
      (version : attempt.stateVersion = row.stateVersion + 1)
      (number : attempt.attemptNumber = db.nextAttemptNumber jobId) :
      QueueMove db .plain { db with
        jobAttempts := db.jobAttempts.set attemptId attempt
        jobs := db.jobs.set jobId
          { row with
            state := .starting
            stateVersion := row.stateVersion + 1
            currentAttemptId := some attemptId
            updatedAtNs := now }
        jobRetrySchedule := db.jobRetrySchedule.erase jobId
        jobEvents := events }
  /-- The process of a claimed attempt is registered. -/
  | registered (attemptId : AttemptId) (attempt : AttemptRow) (job : JobRow)
      (runtime : RuntimeRow) (now : Nat) (events : List EventRow)
      (inFlight : InFlight db attemptId attempt job) (starting : attempt.state = .starting)
      (supervisor : runtime.supervisorInstanceId = attempt.supervisorInstanceId)
      (uncancelled : job.cancelRequested = false) :
      QueueMove db .plain { db with
        attemptRuntime := db.attemptRuntime.set attemptId runtime
        jobAttempts := db.jobAttempts.set attemptId
          (attempt.moved .running attempt.resultArtifactId now)
        jobs := db.jobs.set attempt.jobId (job.moved attempt .running now)
        jobEvents := events }
  /-- An attempt is said to run, with no process. -/
  | presumed (attemptId : AttemptId) (attempt : AttemptRow) (job : JobRow) (now : Nat)
      (events : List EventRow) (inFlight : InFlight db attemptId attempt job)
      (starting : attempt.state = .starting) :
      QueueMove db (.unbacked attemptId) { db with
        jobAttempts := db.jobAttempts.set attemptId (attempt.moved .running none now)
        jobs := db.jobs.set attempt.jobId (job.moved attempt .running now)
        jobEvents := events }
  | succeeded (attemptId : AttemptId) (attempt : AttemptRow) (job : JobRow)
      (result : Option ContentDigest) (receipt : ReceiptRow) (now : Nat)
      (events : List EventRow) (inFlight : InFlight db attemptId attempt job)
      (running : attempt.state = .running) (uncancelled : job.cancelRequested = false)
      (known : result ≠ none) :
      QueueMove db .plain { db with
        jobAttempts := db.jobAttempts.set attemptId (attempt.moved .succeeded result now)
        jobs := db.jobs.set attempt.jobId (job.moved attempt .succeeded now)
        attemptRuntime := db.attemptRuntime.erase attemptId
        completionReceipts := db.completionReceipts.set attemptId receipt
        jobEvents := events }
  /-- An attempt ends without success, and its job with it. -/
  | ended (attemptId : AttemptId) (attempt : AttemptRow) (job : JobRow) (newState : AttemptState)
      (result : Option ContentDigest) (failures : Dict AttemptId FailureRow) (now : Nat)
      (events : List EventRow) (inFlight : InFlight db attemptId attempt job)
      (unfinished : attempt.state.isUnfinished = true)
      (terminal : newState = .failed ∨ newState = .cancelled ∨ newState = .interrupted)
      (cancelled : newState = .cancelled → job.cancelRequested = true)
      (others : ∀ other, other ≠ attemptId →
        failures.get? other = db.attemptFailures.get? other) :
      QueueMove db .plain { db with
        attemptFailures := failures
        jobAttempts := db.jobAttempts.set attemptId (attempt.moved newState result now)
        jobs := db.jobs.set attempt.jobId (job.moved attempt newState now)
        attemptRuntime := db.attemptRuntime.erase attemptId
        jobEvents := events }
  /-- An attempt ends without success, and its job is queued again. -/
  | requeued (attemptId : AttemptId) (attempt : AttemptRow) (job : JobRow)
      (newState : AttemptState) (failure : FailureRow) (retry : RetryRow) (now : Nat)
      (events : List EventRow) (inFlight : InFlight db attemptId attempt job)
      (unfinished : attempt.state.isUnfinished = true)
      (terminal : newState = .failed ∨ newState = .interrupted)
      (uncancelled : job.cancelRequested = false) :
      QueueMove db .plain { db with
        attemptFailures := db.attemptFailures.set attemptId failure
        jobAttempts := db.jobAttempts.set attemptId
          (attempt.moved newState attempt.resultArtifactId now)
        jobs := db.jobs.set attempt.jobId
          { job with
            state := .queued
            stateVersion := attempt.stateVersion + 1
            currentAttemptId := none
            updatedAtNs := now }
        attemptRuntime := db.attemptRuntime.erase attemptId
        jobRetrySchedule := db.jobRetrySchedule.set attempt.jobId retry
        jobEvents := events }

/-! ## Rows and guards -/

theorem insertRow_eq_ok {κ ν : Type} [DecidableEq κ] {table table' : Dict κ ν} {key : κ} {row : ν} :
    insertRow table key row = .ok table' ↔
      table.get? key = none ∧ table' = table.set key row := by
  rw [insertRow]
  cases h : table.get? key with
  | none => simp [eq_comm]
  | some old => simp

theorem attemptRow_eq_ok {db : JobDatabase} {attemptId : AttemptId} {attempt : AttemptRow}
    {job : JobRow} :
    db.attemptRow attemptId = .ok (attempt, job) ↔
      db.jobAttempts.get? attemptId = some attempt ∧ db.jobs.get? attempt.jobId = some job := by
  rw [JobDatabase.attemptRow]
  cases h : db.jobAttempts.get? attemptId with
  | none => simp
  | some r =>
    cases hj : db.jobs.get? r.jobId with
    | none =>
      simp only [hj, reduceCtorEq, Option.some.injEq, false_iff, not_and]
      rintro rfl
      simp [hj]
    | some j =>
      simp only [hj, Except.ok.injEq, Prod.mk.injEq, Option.some.injEq]
      constructor
      · rintro ⟨rfl, rfl⟩
        exact ⟨rfl, hj⟩
      · rintro ⟨rfl, h'⟩
        exact ⟨rfl, Option.some.inj (hj.symm.trans h')⟩

theorem requireCurrentAttempt_eq_ok {attemptId : AttemptId} {attempt : AttemptRow} {job : JobRow}
    {version : Nat} {state : AttemptState} {operation : String} :
    requireCurrentAttempt attemptId attempt job version state operation = .ok () ↔
      job.currentAttemptId = some attemptId ∧ attempt.stateVersion = version ∧
        job.stateVersion = version ∧ attempt.state = job.state ∧ attempt.state = state := by
  simp only [requireCurrentAttempt, check_bind_eq_ok, refuseIf_eq_ok, not_not, ne_eq]

theorem map_fst_eq_ok {α : Type} {x : Except QueueFault (JobDatabase × α)} {db' : JobDatabase} :
    (Prod.fst <$> x) = .ok db' ↔ ∃ a, x = .ok (db', a) := by
  cases x with
  | error e => simp [Functor.map, Except.map]
  | ok p =>
    obtain ⟨d, a⟩ := p
    simp [Functor.map, Except.map]

/-! ## Operation by operation -/

theorem submit_move {db db' : JobDatabase} {jobId : JobId} {now : Nat} {spec : ResolvedJobSpec}
    {key : String} {record : JobRecord} (h : db.submit jobId now spec key = .ok (db', record)) :
    QueueMove db .plain db' := by
  rw [JobDatabase.submit] at h
  obtain ⟨_, h⟩ := check_bind_eq_ok.mp h
  split at h
  · obtain ⟨_, h⟩ := check_bind_eq_ok.mp h
    obtain ⟨rfl, -⟩ := Prod.mk.inj (Except.ok.inj h)
    exact .logged db.jobEvents
  · obtain ⟨jobs, hjobs, h⟩ := bind_eq_ok.mp h
    obtain ⟨habsent, rfl⟩ := insertRow_eq_ok.mp hjobs
    obtain ⟨rfl, -⟩ := Prod.mk.inj (Except.ok.inj h)
    exact .submitted jobId _ _ habsent rfl rfl rfl

theorem requestCancel_move {db db' : JobDatabase} {now : Nat} {jobId : JobId}
    (h : db.requestCancel now jobId = .ok db') : QueueMove db .plain db' := by
  rw [JobDatabase.requestCancel] at h
  split at h
  · cases h
  · rename_i row hrow
    split at h
    · obtain rfl := Except.ok.inj h
      exact .logged db.jobEvents
    · split at h
      · cases h
      · rename_i hlive
        split at h
        · obtain rfl := Except.ok.inj h
          exact .logged db.jobEvents
        · split at h
          · rename_i hqueued
            obtain rfl := Except.ok.inj h
            exact .withdrawn jobId row now _ hrow hqueued
          · rename_i hstarted
            obtain rfl := Except.ok.inj h
            exact .asked jobId row now _ hrow (Bool.eq_false_of_not_eq_true hlive) hstarted

theorem requestRetry_move {db db' : JobDatabase} {now : Nat} {jobId : JobId} {record : JobRecord}
    (h : db.requestRetry now jobId = .ok (db', record)) : QueueMove db (.byHand jobId) db' := by
  rw [JobDatabase.requestRetry] at h
  split at h
  · cases h
  · rename_i row hrow
    obtain ⟨hended, h⟩ := check_bind_eq_ok.mp h
    rw [refuseIf_eq_ok, not_and_or, not_not, not_not] at hended
    obtain ⟨rfl, -⟩ := Prod.mk.inj (Except.ok.inj h)
    exact .retried jobId row now _ hrow hended

theorem claimNextForTypes_move {db db' : JobDatabase} {attemptId : AttemptId}
    {supervisor : String} {types : List JobType} {now : Nat} {claimed : Option ClaimedAttempt}
    (h : db.claimNextForTypes attemptId supervisor types now = .ok (db', claimed)) :
    QueueMove db .plain db' := by
  rw [JobDatabase.claimNextForTypes] at h
  obtain ⟨_, h⟩ := check_bind_eq_ok.mp h
  split at h
  · obtain ⟨rfl, -⟩ := Prod.mk.inj (Except.ok.inj h)
    exact .logged db.jobEvents
  · obtain ⟨_, h⟩ := check_bind_eq_ok.mp h
    split at h
    · obtain ⟨rfl, -⟩ := Prod.mk.inj (Except.ok.inj h)
      exact .logged db.jobEvents
    · rename_i jobId row hhead
      obtain ⟨hrow, hdue⟩ := List.mem_filter.mp
        ((List.mem_insertionSort _).mp (List.mem_of_mem_head? hhead))
      rw [JobDatabase.claimable, Bool.and_eq_true, Bool.and_eq_true, Bool.and_eq_true,
        beq_iff_eq] at hdue
      obtain ⟨attempts, hattempts, h⟩ := bind_eq_ok.mp h
      obtain ⟨hfresh, rfl⟩ := insertRow_eq_ok.mp hattempts
      obtain ⟨rfl, -⟩ := Prod.mk.inj (Except.ok.inj h)
      exact .claimed jobId row attemptId _ now _ (Dict.get?_eq_some_iff.mpr hrow) hdue.1.1.1
        hfresh rfl rfl rfl rfl

/-- What a transition has checked when it is made. -/
theorem transitionWithBarrier_eq_ok {db db' : JobDatabase} {attemptId : AttemptId}
    {version : Nat} {newState : AttemptState} {result : Option ContentDigest} {allow : Bool}
    {now : Nat} {receipt : Option AttemptCompletionReceipt} {moved : JobAttempt}
    (h : db.transitionWithBarrier attemptId version newState result allow now receipt
      = .ok (db', moved)) :
    ∃ attempt job indexed, InFlight db attemptId attempt job ∧ attempt.stateVersion = version ∧
      newState ∈ attempt.state.legalTransitions ∧
      (newState = .succeeded → allow = true) ∧ (newState = .succeeded ↔ receipt ≠ none) ∧
      checkCompletion attempt job newState result receipt = .ok () ∧
      (newState = .cancelled → job.cancelRequested = true) ∧
      (db.moveAttempt attemptId attempt job newState result now).indexCompletionReceipt receipt now
        = .ok indexed ∧
      db' = (if newState.isTerminal then
          { indexed with attemptRuntime := indexed.attemptRuntime.erase attemptId }
        else indexed).appendJobEvent attempt.jobId (some attemptId) ("ATTEMPT_" ++ newState.value)
          (attempt.stateVersion + 1) now none := by
  rw [JobDatabase.transitionWithBarrier] at h
  obtain ⟨hallow, h⟩ := check_bind_eq_ok.mp h
  obtain ⟨hreceipt, h⟩ := check_bind_eq_ok.mp h
  obtain ⟨⟨attempt, job⟩, hrow, h⟩ := bind_eq_ok.mp h
  obtain ⟨hcurrent, h⟩ := check_bind_eq_ok.mp h
  obtain ⟨hversion, h⟩ := check_bind_eq_ok.mp h
  obtain ⟨hsame, h⟩ := check_bind_eq_ok.mp h
  obtain ⟨hstate, h⟩ := check_bind_eq_ok.mp h
  obtain ⟨hlegal, h⟩ := check_bind_eq_ok.mp h
  obtain ⟨hcheck, h⟩ := check_bind_eq_ok.mp h
  obtain ⟨hcancelled, h⟩ := check_bind_eq_ok.mp h
  obtain ⟨indexed, hindexed, h⟩ := bind_eq_ok.mp h
  obtain ⟨hattempt, hjob⟩ := attemptRow_eq_ok.mp hrow
  rw [refuseIf_eq_ok, ne_eq, not_not] at hcurrent hversion hsame hstate
  rw [refuseIf_eq_ok, not_not] at hreceipt hlegal
  rw [refuseIf_eq_ok] at hallow hcancelled
  refine ⟨attempt, job, indexed, ⟨hattempt, hjob, hcurrent, hsame, hstate⟩, hversion, hlegal,
    ?_, hreceipt, hcheck, ?_, hindexed, (Prod.mk.inj (Except.ok.inj h)).1.symm⟩
  · intro hs
    by_contra hf
    exact hallow ⟨hs, Bool.eq_false_of_not_eq_true hf⟩
  · intro hs
    by_contra hf
    exact hcancelled ⟨hs, Bool.eq_false_of_not_eq_true hf⟩

theorem isUnfinished_of_legal {state newState : AttemptState}
    (h : newState ∈ state.legalTransitions) : state.isUnfinished = true := by
  cases state <;> first | rfl | exact absurd h (by simp [AttemptState.legalTransitions])

theorem running_of_legal_succeeded {state : AttemptState}
    (h : .succeeded ∈ state.legalTransitions) : state = .running := by
  cases state <;> first | rfl | exact absurd h (by simp [AttemptState.legalTransitions])

theorem starting_of_legal_running {state : AttemptState}
    (h : .running ∈ state.legalTransitions) : state = .starting := by
  cases state <;> first | rfl | exact absurd h (by simp [AttemptState.legalTransitions])

/-- A transition that leaves no receipt starts an attempt or ends it without success. -/
theorem transition_move_of_none {db db' : JobDatabase} {attemptId : AttemptId} {version : Nat}
    {newState : AttemptState} {result : Option ContentDigest} {allow : Bool} {now : Nat}
    {moved : JobAttempt}
    (h : db.transitionWithBarrier attemptId version newState result allow now none
      = .ok (db', moved)) :
    QueueMove db (if newState = .running then .unbacked attemptId else .plain) db' := by
  obtain ⟨attempt, job, indexed, hflight, -, hlegal, -, hreceipt, hcheck, hcancel, hindexed, rfl⟩ :=
    transitionWithBarrier_eq_ok h
  obtain rfl := Except.ok.inj hindexed
  have hnot : newState ≠ .succeeded := fun hs => hreceipt.mp hs rfl
  rw [checkCompletion, if_neg hnot, refuseIf_eq_ok, ne_eq, not_not] at hcheck
  subst hcheck
  have hunfinished := isUnfinished_of_legal hlegal
  by_cases hrun : newState = .running
  · subst hrun
    exact .presumed attemptId attempt job now _ hflight (starting_of_legal_running hlegal)
  · have hterminal : newState = .failed ∨ newState = .cancelled ∨ newState = .interrupted := by
      revert hlegal hnot hrun hunfinished
      cases attempt.state <;> cases newState <;>
        simp [AttemptState.legalTransitions, AttemptState.isUnfinished]
    have ht : newState.isTerminal = true := by
      rcases hterminal with rfl | rfl | rfl <;> rfl
    rw [if_pos ht, if_neg hrun]
    exact .ended attemptId attempt job newState none db.attemptFailures now _ hflight hunfinished
      hterminal hcancel fun _ _ => rfl

theorem transition_move {db db' : JobDatabase} {attemptId : AttemptId} {version : Nat}
    {newState : AttemptState} {result : Option ContentDigest} {now : Nat} {moved : JobAttempt}
    (h : db.transition attemptId version newState result now = .ok (db', moved)) :
    QueueMove db (if newState = .running then .unbacked attemptId else .plain) db' := by
  rw [JobDatabase.transition] at h
  exact transition_move_of_none (check_bind_eq_ok.mp h).2

theorem finishCancelled_move {db db' : JobDatabase} {attemptId : AttemptId} {version now : Nat}
    {moved : JobAttempt} (h : db.finishCancelled attemptId version now = .ok (db', moved)) :
    QueueMove db .plain db' := transition_move_of_none h

theorem completeVerified_move {db db' : JobDatabase} {attemptId : AttemptId} {version : Nat}
    {receipt : AttemptCompletionReceipt} {now : Nat} {moved : JobAttempt}
    (h : db.completeVerified attemptId version receipt now = .ok (db', moved)) :
    QueueMove db .plain db' := by
  rw [JobDatabase.completeVerified] at h
  obtain ⟨hown, h⟩ := check_bind_eq_ok.mp h
  rw [refuseIf_eq_ok, ne_eq, not_not] at hown
  obtain ⟨attempt, job, indexed, hflight, -, hlegal, -, -, hcheck, -, hindexed, rfl⟩ :=
    transitionWithBarrier_eq_ok h
  obtain ⟨receipts, hreceipts, hindexed⟩ := bind_eq_ok.mp hindexed
  obtain ⟨-, rfl⟩ := insertRow_eq_ok.mp hreceipts
  obtain rfl := Except.ok.inj hindexed
  rw [checkCompletion, if_pos rfl] at hcheck
  obtain ⟨-, hcheck⟩ := check_bind_eq_ok.mp hcheck
  obtain ⟨hcancel, -⟩ := check_bind_eq_ok.mp hcheck
  rw [refuseIf_eq_ok, Bool.not_eq_true] at hcancel
  subst hown
  exact .succeeded _ attempt job _ _ now _ hflight (running_of_legal_succeeded hlegal)
    hcancel (by simp)

theorem registerProcess_move {db db' : JobDatabase} {claimed : ClaimedAttempt}
    {handle : ProcessHandle} {policy : JobExecutionPolicy} {supervisor : String} {now : Nat}
    {record : SupervisorAttempt}
    (h : db.registerProcess claimed handle policy supervisor now = .ok (db', record)) :
    QueueMove db .plain db' := by
  rw [JobDatabase.registerProcess] at h
  obtain ⟨-, h⟩ := check_bind_eq_ok.mp h
  obtain ⟨-, h⟩ := check_bind_eq_ok.mp h
  obtain ⟨-, h⟩ := check_bind_eq_ok.mp h
  obtain ⟨⟨attempt, job⟩, hrow, h⟩ := bind_eq_ok.mp h
  obtain ⟨hcurrent, h⟩ := check_bind_eq_ok.mp h
  obtain ⟨howner, h⟩ := check_bind_eq_ok.mp h
  obtain ⟨-, h⟩ := check_bind_eq_ok.mp h
  obtain ⟨hcancel, h⟩ := check_bind_eq_ok.mp h
  obtain ⟨runtimes, hruntimes, h⟩ := bind_eq_ok.mp h
  obtain ⟨-, rfl⟩ := insertRow_eq_ok.mp hruntimes
  obtain ⟨rfl, -⟩ := Prod.mk.inj (Except.ok.inj h)
  obtain ⟨hattempt, hjob⟩ := attemptRow_eq_ok.mp hrow
  obtain ⟨hcur, hv, hjv, hsame, hstarting⟩ := requireCurrentAttempt_eq_ok.mp hcurrent
  rw [refuseIf_eq_ok, ne_eq, not_not] at howner
  rw [refuseIf_eq_ok, Bool.not_eq_true] at hcancel
  exact .registered _ attempt job _ now _ ⟨hattempt, hjob, hcur, hjv.trans hv.symm, hsame.symm⟩
    hstarting howner.symm hcancel

theorem heartbeat_move {db db' : JobDatabase} {attemptId : AttemptId} {version : Nat}
    {supervisor : String} {now lease : Nat}
    (h : db.heartbeat attemptId version supervisor now lease = .ok db') :
    QueueMove db .plain db' := by
  rw [JobDatabase.heartbeat] at h
  obtain ⟨-, h⟩ := check_bind_eq_ok.mp h
  obtain ⟨-, h⟩ := check_bind_eq_ok.mp h
  obtain ⟨⟨attempt, job⟩, -, h⟩ := bind_eq_ok.mp h
  obtain ⟨-, h⟩ := check_bind_eq_ok.mp h
  split at h
  · cases h
  · rename_i runtime hruntime
    obtain ⟨-, h⟩ := check_bind_eq_ok.mp h
    obtain ⟨-, h⟩ := check_bind_eq_ok.mp h
    obtain rfl := Except.ok.inj h
    exact .renewed attemptId runtime _ hruntime rfl

theorem recordProgress_move {db db' : JobDatabase} {attemptId : AttemptId} {version : Nat}
    {details : JobProgressDetails} {supervisor : String} {now : Nat}
    (h : db.recordProgress attemptId version details supervisor now = .ok db') :
    QueueMove db .plain db' := by
  rw [JobDatabase.recordProgress] at h
  obtain ⟨-, h⟩ := check_bind_eq_ok.mp h
  obtain ⟨⟨attempt, job⟩, -, h⟩ := bind_eq_ok.mp h
  dsimp only at h
  split at h
  · cases h
  · obtain ⟨-, h⟩ := check_bind_eq_ok.mp h
    obtain ⟨-, h⟩ := check_bind_eq_ok.mp h
    obtain ⟨-, h⟩ := check_bind_eq_ok.mp h
    obtain rfl := Except.ok.inj h
    exact .logged _

theorem finishUnsuccessful_move {db db' : JobDatabase} {attemptId : AttemptId} {version : Nat}
    {failure : AttemptFailure} {retryAt : Option Nat} {now : Nat} {finish : AttemptFinish}
    (h : db.finishUnsuccessful attemptId version failure retryAt now = .ok (db', finish)) :
    QueueMove db .plain db' := by
  rw [JobDatabase.finishUnsuccessful] at h
  obtain ⟨-, h⟩ := check_bind_eq_ok.mp h
  obtain ⟨⟨attempt, job⟩, hrow, h⟩ := bind_eq_ok.mp h
  obtain ⟨hunfinished, h⟩ := check_bind_eq_ok.mp h
  obtain ⟨hcurrent, h⟩ := check_bind_eq_ok.mp h
  obtain ⟨failures, hfailures, h⟩ := bind_eq_ok.mp h
  obtain ⟨-, rfl⟩ := insertRow_eq_ok.mp hfailures
  obtain ⟨hattempt, hjob⟩ := attemptRow_eq_ok.mp hrow
  obtain ⟨hcur, hv, hjv, hsame, -⟩ := requireCurrentAttempt_eq_ok.mp hcurrent
  rw [refuseIf_eq_ok, Bool.not_eq_false] at hunfinished
  have hflight : InFlight db attemptId attempt job :=
    ⟨hattempt, hjob, hcur, hjv.trans hv.symm, hsame.symm⟩
  have hended : terminalStateOf job.cancelRequested failure = .failed ∨
      terminalStateOf job.cancelRequested failure = .cancelled ∨
      terminalStateOf job.cancelRequested failure = .interrupted := by
    rw [terminalStateOf]
    split_ifs <;> simp
  have hasked : terminalStateOf job.cancelRequested failure = .cancelled →
      job.cancelRequested = true := by
    intro hs
    by_contra hc
    rw [terminalStateOf, if_neg hc] at hs
    split at hs <;> cases hs
  generalize heffective : (if job.cancelRequested = true then none else retryAt) = effective at h
  cases effective with
  | none =>
    obtain ⟨rfl, -⟩ := Prod.mk.inj (Except.ok.inj h)
    exact .ended attemptId attempt job _ _ _ now _ hflight hunfinished hended hasked
      fun other hne => db.attemptFailures.get?_set_of_ne _ hne
  | some retry =>
    have hcancel : job.cancelRequested = false := by
      by_contra hc
      rw [if_pos (Bool.eq_true_of_not_eq_false hc)] at heffective
      cases heffective
    obtain ⟨schedule, hschedule, h⟩ := bind_eq_ok.mp h
    obtain ⟨-, rfl⟩ := insertRow_eq_ok.mp hschedule
    obtain ⟨rfl, -⟩ := Prod.mk.inj (Except.ok.inj h)
    refine .requeued attemptId attempt job _ _ _ now _ hflight hunfinished ?_ hcancel
    rcases hended with hs | hs | hs
    · exact .inl hs
    · exact absurd (hasked hs) (by simp [hcancel])
    · exact .inr hs

/-- The kind of move a call can make. -/
def QueueCall.kind : QueueCall → MoveKind
  | requestRetry _ jobId => .byHand jobId
  | transition attemptId _ newState _ _ =>
    if newState = .running then .unbacked attemptId else .plain
  | _ => .plain

/-- **An accepted call is one of the moves.** -/
theorem QueueCall.run_move {db db' : JobDatabase} {call : QueueCall}
    (h : call.run db = .ok db') : QueueMove db call.kind db' := by
  cases call with
  | submit jobId now spec key =>
    obtain ⟨_, h⟩ := map_fst_eq_ok.mp h
    exact submit_move h
  | requestCancel now jobId => exact requestCancel_move h
  | requestRetry now jobId =>
    obtain ⟨_, h⟩ := map_fst_eq_ok.mp h
    exact requestRetry_move h
  | claimNextForTypes attemptId supervisor types now =>
    obtain ⟨_, h⟩ := map_fst_eq_ok.mp h
    exact claimNextForTypes_move h
  | transition attemptId version state result now =>
    obtain ⟨_, h⟩ := map_fst_eq_ok.mp h
    exact transition_move h
  | registerProcess claimed handle policy supervisor now =>
    obtain ⟨_, h⟩ := map_fst_eq_ok.mp h
    exact registerProcess_move h
  | heartbeat attemptId version supervisor now lease => exact heartbeat_move h
  | recordProgress attemptId version details supervisor now => exact recordProgress_move h
  | finishUnsuccessful attemptId version failure retryAt now =>
    obtain ⟨_, h⟩ := map_fst_eq_ok.mp h
    exact finishUnsuccessful_move h
  | finishCancelled attemptId version now =>
    obtain ⟨_, h⟩ := map_fst_eq_ok.mp h
    exact finishCancelled_move h
  | completeVerified attemptId version receipt now =>
    obtain ⟨_, h⟩ := map_fst_eq_ok.mp h
    exact completeVerified_move h

/-- A call makes a move or none. -/
theorem apply_move (db : JobDatabase) (call : QueueCall) :
    QueueMove db call.kind (db.apply call) ∨ db.apply call = db := by
  rw [JobDatabase.apply]
  split
  · rename_i h
    exact .inl (QueueCall.run_move h)
  · exact .inr rfl

theorem JobDatabase.Reachable.applyAll {db : JobDatabase} (h : db.Reachable)
    (calls : List QueueCall) : (db.applyAll calls).Reachable := by
  induction calls generalizing db with
  | nil => exact h
  | cons call rest ih => exact ih (h.call call)

theorem reachable_applyAll (calls : List QueueCall) :
    (JobDatabase.empty.applyAll calls).Reachable := JobDatabase.Reachable.empty.applyAll calls

/-- What holds of the empty database and is kept by every move holds of every reachable one. -/
theorem JobDatabase.Reachable.induction {P : JobDatabase → Prop} (hempty : P JobDatabase.empty)
    (hmove : ∀ db kind db', P db → QueueMove db kind db' → P db') {db : JobDatabase}
    (h : db.Reachable) : P db := by
  induction h with
  | empty => exact hempty
  | @call db _ call ih =>
    rcases apply_move db call with hm | hm
    · exact hmove db _ _ ih hm
    · rwa [hm]

end Jobs

end OnchainBacktest
