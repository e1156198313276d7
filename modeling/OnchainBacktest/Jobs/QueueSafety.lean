import OnchainBacktest.Jobs.QueueMoves

/-!
# Safety of the job queue

The tables of the job database agree with each other in every state any sequence of calls can
leave.  A call touches the rows of one job only (`Confined`), so the invariant is stated job by job
(`JobSound`) and attempt by attempt (`AttemptSound`), and a move is checked on its own job alone.

## What is here

* `QueueSound` — the invariant, kept by every move (`QueueMove.sound`).
* `JobDatabase.Reachable.sound` — it holds in every reachable database.
* `QueueMove.kept` and its kin — a terminal attempt stays, versions grow, a cancellation stays.
* `queue_safe` — the safety of the queue, over every sequence of calls.
-/

set_option autoImplicit false

namespace OnchainBacktest

namespace Jobs

open Checked

/-! ## The invariant -/

/-- What the rows of one job say together. -/
structure JobSound (db : JobDatabase) (jobId : JobId) (row : JobRow) : Prop where
  current : ∀ a, row.currentAttemptId = some a → ∃ r, db.jobAttempts.get? a = some r ∧
    r.jobId = jobId ∧ r.state = row.state ∧ r.stateVersion = row.stateVersion
  idle : row.currentAttemptId = none → row.state = .queued ∨ row.state = .cancelled
  queued : row.state = .queued → row.currentAttemptId = none ∧ row.cancelRequested = false
  cancelled : row.state = .cancelled → row.cancelRequested = true
  past : ∀ a r, db.jobAttempts.get? a = some r → r.jobId = jobId →
    row.currentAttemptId ≠ some a → r.state = .failed ∨ r.state = .interrupted
  scheduled : db.jobRetrySchedule.get? jobId ≠ none → row.state = .queued
  succeeded : row.state = .succeeded → row.cancelRequested = false ∧
    ∃ a, row.currentAttemptId = some a ∧ db.completionReceipts.get? a ≠ none

/-- What the rows of one attempt say together. -/
structure AttemptSound (db : JobDatabase) (attemptId : AttemptId) (attempt : AttemptRow) :
    Prop where
  home : ∃ row, db.jobs.get? attempt.jobId = some row
  claimed : attempt.state ≠ .queued
  unended : attempt.state.isUnfinished = true → db.attemptFailures.get? attemptId = none ∧
    db.completionReceipts.get? attemptId = none
  runtime : ∀ r, db.attemptRuntime.get? attemptId = some r →
    attempt.state = .running ∧ r.supervisorInstanceId = attempt.supervisorInstanceId

/-- **The tables of the queue agree.** -/
structure QueueSound (db : JobDatabase) : Prop where
  job : ∀ j row, db.jobs.get? j = some row → JobSound db j row
  attempt : ∀ a r, db.jobAttempts.get? a = some r → AttemptSound db a r
  scheduled : ∀ j, db.jobRetrySchedule.get? j ≠ none → ∃ row, db.jobs.get? j = some row
  unknown : ∀ a, db.jobAttempts.get? a = none → db.attemptRuntime.get? a = none ∧
    db.attemptFailures.get? a = none ∧ db.completionReceipts.get? a = none

theorem queueSound_empty : QueueSound JobDatabase.empty where
  job := fun _ _ h => by cases h
  attempt := fun _ _ h => by cases h
  scheduled := fun _ h => absurd rfl h
  unknown := fun _ _ => ⟨rfl, rfl, rfl⟩

/-! ## One job at a time -/

/-- Everything but one job and its attempts is as it was. -/
structure Confined (jobId : JobId) (db db' : JobDatabase) : Prop where
  jobs : ∀ j, j ≠ jobId → db'.jobs.get? j = db.jobs.get? j
  attempts : ∀ a r, r.jobId ≠ jobId →
    (db'.jobAttempts.get? a = some r ↔ db.jobAttempts.get? a = some r)
  schedule : ∀ j, j ≠ jobId → db'.jobRetrySchedule.get? j = db.jobRetrySchedule.get? j
  ends : ∀ a, (∀ r, db'.jobAttempts.get? a = some r → r.jobId ≠ jobId) →
    db'.attemptRuntime.get? a = db.attemptRuntime.get? a ∧
    db'.attemptFailures.get? a = db.attemptFailures.get? a ∧
    db'.completionReceipts.get? a = db.completionReceipts.get? a
  receipts : ∀ a, db.completionReceipts.get? a ≠ none → db'.completionReceipts.get? a ≠ none
  known : ∀ a, db'.jobAttempts.get? a = none → db.jobAttempts.get? a = none

/-- A job that is not touched stays sound. -/
theorem JobSound.elsewhere {db db' : JobDatabase} {jobId j : JobId} {row : JobRow}
    (hc : Confined jobId db db') (hne : j ≠ jobId) (h : JobSound db j row) :
    JobSound db' j row where
  current := by
    intro a ha
    obtain ⟨r, hr, hj, hs⟩ := h.current a ha
    exact ⟨r, (hc.attempts a r (hj ▸ hne)).mpr hr, hj, hs⟩
  idle := h.idle
  queued := h.queued
  cancelled := h.cancelled
  past := by
    intro a r hr hj
    exact h.past a r ((hc.attempts a r (hj ▸ hne)).mp hr) hj
  scheduled := by
    rw [hc.schedule j hne]
    exact h.scheduled
  succeeded := by
    intro hs
    obtain ⟨hcancel, a, ha, hreceipt⟩ := h.succeeded hs
    exact ⟨hcancel, a, ha, hc.receipts a hreceipt⟩

/-- **A confined change keeps the tables sound when its own job and attempts are.** -/
theorem QueueSound.of_confined {db db' : JobDatabase} {jobId : JobId} {row : JobRow}
    (h : QueueSound db) (hc : Confined jobId db db') (hrow : db'.jobs.get? jobId = some row)
    (hjob : JobSound db' jobId row)
    (hattempt : ∀ a r, db'.jobAttempts.get? a = some r → r.jobId = jobId →
      AttemptSound db' a r) : QueueSound db' where
  job := by
    intro j row' hj
    by_cases hne : j = jobId
    · subst hne
      obtain rfl := Option.some.inj (hrow.symm.trans hj)
      exact hjob
    · rw [hc.jobs j hne] at hj
      exact (h.job j row' hj).elsewhere hc hne
  attempt := by
    intro a r hr
    by_cases hne : r.jobId = jobId
    · exact hattempt a r hr hne
    · have hold := h.attempt a r ((hc.attempts a r hne).mp hr)
      obtain ⟨hruntime, hfailures, hreceipts⟩ := hc.ends a fun r' hr' => by
        obtain rfl := Option.some.inj (hr.symm.trans hr')
        exact hne
      exact
        { home := by rw [hc.jobs _ hne]; exact hold.home
          claimed := hold.claimed
          unended := by rw [hfailures, hreceipts]; exact hold.unended
          runtime := by rw [hruntime]; exact hold.runtime }
  scheduled := by
    intro j hj
    by_cases hne : j = jobId
    · exact ⟨row, hne ▸ hrow⟩
    · rw [hc.schedule j hne] at hj
      rw [hc.jobs j hne]
      exact h.scheduled j hj
  unknown := by
    intro a ha
    obtain ⟨hruntime, hfailures, hreceipts⟩ := hc.ends a fun r hr => by
      rw [ha] at hr
      cases hr
    rw [hruntime, hfailures, hreceipts]
    exact h.unknown a (hc.known a ha)

/-- A job whose row changes, with its attempts as they were. -/
theorem QueueSound.job_changed {db db' : JobDatabase} {jobId : JobId} {row : JobRow}
    (h : QueueSound db) (hjobs : db'.jobs = db.jobs.set jobId row)
    (hattempts : db'.jobAttempts = db.jobAttempts)
    (hruntime : db'.attemptRuntime = db.attemptRuntime)
    (hfailures : db'.attemptFailures = db.attemptFailures)
    (hreceipts : db'.completionReceipts = db.completionReceipts)
    (hschedule : ∀ j, j ≠ jobId → db'.jobRetrySchedule.get? j = db.jobRetrySchedule.get? j)
    (hjob : JobSound db' jobId row) : QueueSound db' := by
  have hrow : db'.jobs.get? jobId = some row := by rw [hjobs, Dict.get?_set_self]
  have hc : Confined jobId db db' :=
    { jobs := fun j hne => by rw [hjobs, Dict.get?_set_of_ne _ _ hne]
      attempts := fun a r _ => by rw [hattempts]
      schedule := hschedule
      ends := fun a _ => by rw [hruntime, hfailures, hreceipts]; exact ⟨rfl, rfl, rfl⟩
      receipts := fun a ha => by rwa [hreceipts]
      known := fun a ha => by rwa [hattempts] at ha }
  refine h.of_confined hc hrow hjob fun a r hr hj => ?_
  rw [hattempts] at hr
  have hold := h.attempt a r hr
  exact
    { home := ⟨row, hj ▸ hrow⟩
      claimed := hold.claimed
      unended := by rw [hfailures, hreceipts]; exact hold.unended
      runtime := by rw [hruntime]; exact hold.runtime }

/-- An attempt whose row changes, and the row of its job with it. -/
theorem QueueSound.attempt_changed {db db' : JobDatabase} {attemptId : AttemptId}
    {attempt : AttemptRow} {row : JobRow} (h : QueueSound db)
    (hattempts : db'.jobAttempts = db.jobAttempts.set attemptId attempt)
    (hjobs : db'.jobs = db.jobs.set attempt.jobId row)
    (hold : ∀ r, db.jobAttempts.get? attemptId = some r → r.jobId = attempt.jobId)
    (hruntime : ∀ a, a ≠ attemptId → db'.attemptRuntime.get? a = db.attemptRuntime.get? a)
    (hfailures : ∀ a, a ≠ attemptId → db'.attemptFailures.get? a = db.attemptFailures.get? a)
    (hreceipts : ∀ a, a ≠ attemptId →
      db'.completionReceipts.get? a = db.completionReceipts.get? a)
    (hindexed : db.completionReceipts.get? attemptId ≠ none →
      db'.completionReceipts.get? attemptId ≠ none)
    (hschedule : ∀ j, j ≠ attempt.jobId →
      db'.jobRetrySchedule.get? j = db.jobRetrySchedule.get? j)
    (hjob : JobSound db' attempt.jobId row) (hattempt : AttemptSound db' attemptId attempt) :
    QueueSound db' := by
  have hrow : db'.jobs.get? attempt.jobId = some row := by rw [hjobs, Dict.get?_set_self]
  have hself : db'.jobAttempts.get? attemptId = some attempt := by
    rw [hattempts, Dict.get?_set_self]
  have hother : ∀ a, a ≠ attemptId → db'.jobAttempts.get? a = db.jobAttempts.get? a := by
    intro a hne
    rw [hattempts, Dict.get?_set_of_ne _ _ hne]
  have hc : Confined attempt.jobId db db' :=
    { jobs := fun j hne => by rw [hjobs, Dict.get?_set_of_ne _ _ hne]
      attempts := by
        intro a r hne
        by_cases ha : a = attemptId
        · subst ha
          constructor
          · intro hr
            obtain rfl := Option.some.inj (hself.symm.trans hr)
            exact absurd rfl hne
          · intro hr
            exact absurd (hold r hr) hne
        · rw [hother a ha]
      schedule := hschedule
      ends := by
        intro a ha
        have hne : a ≠ attemptId := by
          rintro rfl
          exact ha attempt hself rfl
        exact ⟨hruntime a hne, hfailures a hne, hreceipts a hne⟩
      receipts := by
        intro a ha
        by_cases hne : a = attemptId
        · subst hne
          exact hindexed ha
        · rwa [hreceipts a hne]
      known := by
        intro a ha
        by_cases hne : a = attemptId
        · subst hne
          rw [hself] at ha
          cases ha
        · rwa [hother a hne] at ha }
  refine h.of_confined hc hrow hjob fun a r hr hj => ?_
  by_cases hne : a = attemptId
  · subst hne
    obtain rfl := Option.some.inj (hself.symm.trans hr)
    exact hattempt
  · rw [hother a hne] at hr
    have hsound := h.attempt a r hr
    exact
      { home := ⟨row, hj ▸ hrow⟩
        claimed := hsound.claimed
        unended := by rw [hfailures a hne, hreceipts a hne]; exact hsound.unended
        runtime := by rw [hruntime a hne]; exact hsound.runtime }

/-! ## Move by move -/

theorem isUnfinished_iff {state : AttemptState} :
    state.isUnfinished = true ↔ state = .starting ∨ state = .running := by
  cases state <;> simp [AttemptState.isUnfinished]

theorem not_queued_of_unfinished {state : AttemptState} (h : state.isUnfinished = true) :
    state ≠ .queued := by
  rcases isUnfinished_iff.mp h with rfl | rfl <;> simp

/-- **The move of an attempt in flight keeps the tables sound.** -/
theorem QueueSound.moved {db db' : JobDatabase} {attemptId : AttemptId} {attempt : AttemptRow}
    {job : JobRow} {newState : AttemptState} {result : Option ContentDigest} {now : Nat}
    (h : QueueSound db) (hflight : InFlight db attemptId attempt job)
    (hunfinished : attempt.state.isUnfinished = true)
    (hattempts : db'.jobAttempts = db.jobAttempts.set attemptId (attempt.moved newState result now))
    (hjobs : db'.jobs = db.jobs.set attempt.jobId (job.moved attempt newState now))
    (hschedule : db'.jobRetrySchedule = db.jobRetrySchedule)
    (hruntime : ∀ a, a ≠ attemptId → db'.attemptRuntime.get? a = db.attemptRuntime.get? a)
    (hfailures : ∀ a, a ≠ attemptId → db'.attemptFailures.get? a = db.attemptFailures.get? a)
    (hreceipts : ∀ a, a ≠ attemptId →
      db'.completionReceipts.get? a = db.completionReceipts.get? a)
    (hindexed : newState = .succeeded → job.cancelRequested = false ∧
      db'.completionReceipts.get? attemptId ≠ none)
    (hunqueued : newState ≠ .queued)
    (hcancelled : newState = .cancelled → job.cancelRequested = true)
    (hstill : newState.isUnfinished = true →
      db'.attemptFailures = db.attemptFailures ∧ db'.completionReceipts = db.completionReceipts)
    (hprocess : ∀ r, db'.attemptRuntime.get? attemptId = some r →
      newState = .running ∧ r.supervisorInstanceId = attempt.supervisorInstanceId) :
    QueueSound db' := by
  have hjob := h.job _ _ hflight.job_eq
  have hattempt := h.attempt _ _ hflight.attempt_eq
  have hunended := hattempt.unended hunfinished
  have hself : db'.jobAttempts.get? attemptId = some (attempt.moved newState result now) := by
    rw [hattempts, Dict.get?_set_self]
  refine h.attempt_changed hattempts hjobs ?_ hruntime hfailures hreceipts
    (fun hr => absurd hunended.2 hr) (fun j _ => by rw [hschedule]) ?_ ?_
  · intro r hr
    obtain rfl := Option.some.inj (hflight.attempt_eq.symm.trans hr)
    rfl
  · exact
      { current := by
          intro a ha
          obtain rfl := Option.some.inj (hflight.current.symm.trans ha)
          exact ⟨_, hself, rfl, rfl, rfl⟩
        idle := by
          intro ha
          exact absurd (hflight.current.symm.trans ha) (by simp)
        queued := fun hs => absurd hs hunqueued
        cancelled := hcancelled
        past := by
          intro a r hr hj hne
          have ha : a ≠ attemptId := by
            rintro rfl
            exact hne hflight.current
          rw [hattempts, Dict.get?_set_of_ne _ _ ha] at hr
          exact hjob.past a r hr hj hne
        scheduled := by
          intro hs
          rw [hschedule] at hs
          exact absurd (hflight.state ▸ hjob.scheduled hs) (not_queued_of_unfinished hunfinished)
        succeeded := fun hs => ⟨(hindexed hs).1, attemptId, hflight.current, (hindexed hs).2⟩ }
  · exact
      { home := ⟨job.moved attempt newState now, by
          rw [hjobs]
          exact Dict.get?_set_self _ _ _⟩
        claimed := hunqueued
        unended := by
          intro hs
          obtain ⟨hf, hr⟩ := hstill hs
          rw [hf, hr]
          exact hunended
        runtime := hprocess }

/-- A change of the log and of leases only keeps the tables sound. -/
theorem QueueSound.quiet {db db' : JobDatabase} (h : QueueSound db) (hjobs : db'.jobs = db.jobs)
    (hattempts : db'.jobAttempts = db.jobAttempts)
    (hfailures : db'.attemptFailures = db.attemptFailures)
    (hreceipts : db'.completionReceipts = db.completionReceipts)
    (hschedule : db'.jobRetrySchedule = db.jobRetrySchedule)
    (hruntime : ∀ a, (db'.attemptRuntime.get? a).map (·.supervisorInstanceId)
      = (db.attemptRuntime.get? a).map (·.supervisorInstanceId)) : QueueSound db' where
  job := by
    intro j row hj
    rw [hjobs] at hj
    have hold := h.job j row hj
    exact
      { current := by rw [hattempts]; exact hold.current
        idle := hold.idle
        queued := hold.queued
        cancelled := hold.cancelled
        past := by rw [hattempts]; exact hold.past
        scheduled := by rw [hschedule]; exact hold.scheduled
        succeeded := by rw [hreceipts]; exact hold.succeeded }
  attempt := by
    intro a r hr
    rw [hattempts] at hr
    have hold := h.attempt a r hr
    exact
      { home := by rw [hjobs]; exact hold.home
        claimed := hold.claimed
        unended := by rw [hfailures, hreceipts]; exact hold.unended
        runtime := by
          intro rt hrt
          have hmap := hruntime a
          rw [hrt, Option.map_some] at hmap
          obtain ⟨old, hold', heq⟩ := Option.map_eq_some_iff.mp hmap.symm
          rw [← heq]
          exact hold.runtime old hold' }
  scheduled := by
    rw [hschedule, hjobs]
    exact h.scheduled
  unknown := by
    intro a ha
    rw [hattempts] at ha
    obtain ⟨hr, hrest⟩ := h.unknown a ha
    have hmap := hruntime a
    rw [hr, Option.map_none, Option.map_eq_none_iff] at hmap
    rw [hfailures, hreceipts]
    exact ⟨hmap, hrest⟩

/-- **Every move keeps the tables sound.** -/
theorem QueueMove.sound {db db' : JobDatabase} {kind : MoveKind} (h : QueueSound db)
    (hm : QueueMove db kind db') :
    QueueSound db' := by
  cases hm with
  | logged events => exact h.quiet rfl rfl rfl rfl rfl fun _ => rfl
  | renewed attemptId old new hknown hsame =>
    refine h.quiet rfl rfl rfl rfl rfl fun a => ?_
    show ((db.attemptRuntime.set attemptId new).get? a).map _ = _
    rw [Dict.get?_set]
    split
    · rename_i ha
      rw [ha, hknown, Option.map_some, Option.map_some, hsame]
    · rfl
  | submitted jobId row events habsent hqueued huncancelled hidle =>
    have hnone : ∀ a r, db.jobAttempts.get? a = some r → r.jobId ≠ jobId := by
      rintro a r hr rfl
      obtain ⟨row', hrow'⟩ := (h.attempt a r hr).home
      rw [habsent] at hrow'
      cases hrow'
    refine h.job_changed rfl rfl rfl rfl rfl (fun _ _ => rfl) ?_
    exact
      { current := fun a ha => absurd (hidle.symm.trans ha) (by simp)
        idle := fun _ => .inl hqueued
        queued := fun _ => ⟨hidle, huncancelled⟩
        cancelled := fun hs => absurd (hqueued.symm.trans hs) (by simp)
        past := fun a r hr hj => absurd hj (hnone a r hr)
        scheduled := fun _ => hqueued
        succeeded := fun hs => absurd (hqueued.symm.trans hs) (by simp) }
  | withdrawn jobId row now events hknown hqueued =>
    have hold := h.job _ _ hknown
    have hidle := (hold.queued hqueued).1
    refine h.job_changed rfl rfl rfl rfl rfl
      (fun j hne => db.jobRetrySchedule.get?_erase_of_ne hne) ?_
    exact
      { current := fun a ha => absurd (hidle.symm.trans ha) (by simp)
        idle := fun _ => .inr rfl
        queued := fun hs => by cases hs
        cancelled := fun _ => rfl
        past := hold.past
        scheduled := fun hs => absurd (db.jobRetrySchedule.get?_erase_self jobId) hs
        succeeded := fun hs => by cases hs }
  | asked jobId row now events hknown hlive hstarted =>
    have hold := h.job _ _ hknown
    refine h.job_changed rfl rfl rfl rfl rfl (fun _ _ => rfl) ?_
    exact
      { current := hold.current
        idle := hold.idle
        queued := fun hs => absurd hs hstarted
        cancelled := fun _ => rfl
        past := hold.past
        scheduled := hold.scheduled
        succeeded := fun hs => by
          have hs' : row.state = .succeeded := hs
          rw [hs'] at hlive
          cases hlive }
  | retried jobId row now events hknown hended =>
    have hold := h.job _ _ hknown
    refine h.job_changed rfl rfl rfl rfl rfl
      (fun j hne => db.jobRetrySchedule.get?_erase_of_ne hne) ?_
    exact
      { current := fun a ha => by cases ha
        idle := fun _ => .inl rfl
        queued := fun _ => ⟨rfl, rfl⟩
        cancelled := fun hs => by cases hs
        past := by
          intro a r hr hj _
          by_cases ha : row.currentAttemptId = some a
          · obtain ⟨r', hr', -, hs, -⟩ := hold.current a ha
            obtain rfl := Option.some.inj (hr'.symm.trans hr)
            rwa [hs]
          · exact hold.past a r hr hj ha
        scheduled := fun _ => rfl
        succeeded := fun hs => by cases hs }
  | claimed jobId row attemptId attempt now events hknown hqueued hfresh hof hstarting hversion =>
    subst hof
    have hold := h.job _ _ hknown
    have hidle := (hold.queued hqueued).1
    obtain ⟨hruntime, hfailures, hreceipts⟩ := h.unknown attemptId hfresh
    refine h.attempt_changed rfl rfl (fun r hr => absurd (hfresh.symm.trans hr) (by simp))
      (fun _ _ => rfl) (fun _ _ => rfl) (fun _ _ => rfl) id
      (fun j hne => db.jobRetrySchedule.get?_erase_of_ne hne) ?_ ?_
    · exact
        { current := by
            intro a ha
            obtain rfl := Option.some.inj ha
            exact ⟨attempt, Dict.get?_set_self _ _ _, rfl, hstarting, hversion⟩
          idle := fun ha => by cases ha
          queued := fun hs => by cases hs
          cancelled := fun hs => by cases hs
          past := by
            intro a r hr hj hne
            have ha : a ≠ attemptId := by
              rintro rfl
              exact hne rfl
            have hr' : db.jobAttempts.get? a = some r := by
              rw [← hr]
              exact (db.jobAttempts.get?_set_of_ne attempt ha).symm
            exact hold.past a r hr' hj (by simp [hidle])
          scheduled := fun hs => absurd (db.jobRetrySchedule.get?_erase_self _) hs
          succeeded := fun hs => by cases hs }
    · exact
        { home := ⟨_, Dict.get?_set_self _ _ _⟩
          claimed := by rw [hstarting]; simp
          unended := fun _ => ⟨hfailures, hreceipts⟩
          runtime := fun r hr => absurd (hruntime.symm.trans hr) (by simp) }
  | registered attemptId attempt job runtime now events hflight hstarting hsupervisor =>
    refine h.moved hflight (by rw [hstarting]; rfl) rfl rfl rfl
      (fun a ha => db.attemptRuntime.get?_set_of_ne runtime ha) (fun _ _ => rfl) (fun _ _ => rfl)
      (fun hs => by cases hs) (by simp) (fun hs => by cases hs) (fun _ => ⟨rfl, rfl⟩) ?_
    intro r hr
    obtain rfl := Option.some.inj ((db.attemptRuntime.get?_set_self attemptId runtime).symm.trans hr)
    exact ⟨rfl, hsupervisor⟩
  | presumed attemptId attempt job now events hflight hstarting =>
    refine h.moved hflight (by rw [hstarting]; rfl) rfl rfl rfl (fun _ _ => rfl) (fun _ _ => rfl)
      (fun _ _ => rfl) (fun hs => by cases hs) (by simp) (fun hs => by cases hs)
      (fun _ => ⟨rfl, rfl⟩) ?_
    intro r hr
    have hrun := ((h.attempt _ _ hflight.attempt_eq).runtime r hr).1
    exact absurd (hstarting.symm.trans hrun) (by simp)
  | succeeded attemptId attempt job result receipt now events hflight hrunning huncancelled =>
    refine h.moved hflight (by rw [hrunning]; rfl) rfl rfl rfl
      (fun a ha => db.attemptRuntime.get?_erase_of_ne ha) (fun _ _ => rfl)
      (fun a ha => db.completionReceipts.get?_set_of_ne receipt ha) ?_ (by simp)
      (fun hs => by cases hs) (fun hs => by cases hs) ?_
    · intro _
      refine ⟨huncancelled, ?_⟩
      show (db.completionReceipts.set attemptId receipt).get? attemptId ≠ none
      simp
    · intro r hr
      exact absurd ((db.attemptRuntime.get?_erase_self attemptId).symm.trans hr) (by simp)
  | ended attemptId attempt job newState result failures now events hflight hunfinished hterminal
      hcancelled hothers =>
    refine h.moved hflight hunfinished rfl rfl rfl
      (fun a ha => db.attemptRuntime.get?_erase_of_ne ha) hothers (fun _ _ => rfl) ?_ ?_
      hcancelled ?_ ?_
    · rintro rfl
      rcases hterminal with hs | hs | hs <;> cases hs
    · rcases hterminal with rfl | rfl | rfl <;> simp
    · intro hs
      rcases hterminal with rfl | rfl | rfl <;> cases hs
    · intro r hr
      exact absurd ((db.attemptRuntime.get?_erase_self attemptId).symm.trans hr) (by simp)
  | requeued attemptId attempt job newState failure retry now events hflight hunfinished hterminal
      huncancelled =>
    have hold := h.job _ _ hflight.job_eq
    have hunended := (h.attempt _ _ hflight.attempt_eq).unended hunfinished
    refine h.attempt_changed rfl rfl ?_
      (fun a ha => db.attemptRuntime.get?_erase_of_ne ha)
      (fun a ha => db.attemptFailures.get?_set_of_ne failure ha) (fun _ _ => rfl) id
      (fun j hne => db.jobRetrySchedule.get?_set_of_ne retry hne) ?_ ?_
    · intro r hr
      obtain rfl := Option.some.inj (hflight.attempt_eq.symm.trans hr)
      rfl
    · exact
        { current := fun a ha => by cases ha
          idle := fun _ => .inl rfl
          queued := fun _ => ⟨rfl, huncancelled⟩
          cancelled := fun hs => by cases hs
          past := by
            intro a r hr hj _
            by_cases ha : a = attemptId
            · subst ha
              obtain rfl := Option.some.inj
                ((db.jobAttempts.get?_set_self a _).symm.trans hr)
              exact hterminal
            · have hr' : db.jobAttempts.get? a = some r := by
                rw [← hr]
                exact (db.jobAttempts.get?_set_of_ne _ ha).symm
              refine hold.past a r hr' hj ?_
              rw [hflight.current]
              exact fun hs => ha (Option.some.inj hs).symm
          scheduled := fun _ => rfl
          succeeded := fun hs => by cases hs }
    · exact
        { home := ⟨_, Dict.get?_set_self _ _ _⟩
          claimed := by rcases hterminal with rfl | rfl <;> simp [AttemptRow.moved]
          unended := by
            intro hs
            rcases hterminal with rfl | rfl <;> cases hs
          runtime := by
            intro r hr
            exact absurd ((db.attemptRuntime.get?_erase_self attemptId).symm.trans hr) (by simp) }

theorem JobDatabase.Reachable.sound {db : JobDatabase} (h : db.Reachable) : QueueSound db :=
  h.induction queueSound_empty fun _ _ _ hsound hm => hm.sound hsound

/-! ## What a call changes -/

/-- **A terminal attempt never changes again.** -/
theorem QueueMove.kept {db db' : JobDatabase} {kind : MoveKind} (hm : QueueMove db kind db')
    {a : AttemptId} {r : AttemptRow} (hr : db.jobAttempts.get? a = some r) (ht : r.state.isTerminal = true) :
    db'.jobAttempts.get? a = some r := by
  have hflight : ∀ {b attempt job}, InFlight db b attempt job →
      attempt.state.isUnfinished = true → a ≠ b := by
    rintro b attempt job hf hu rfl
    obtain rfl := Option.some.inj (hf.attempt_eq.symm.trans hr)
    rcases isUnfinished_iff.mp hu with hs | hs <;> rw [hs] at ht <;> cases ht
  cases hm with
  | logged => exact hr
  | renewed => exact hr
  | submitted => exact hr
  | withdrawn => exact hr
  | asked => exact hr
  | retried => exact hr
  | claimed jobId row attemptId attempt now events hknown hqueued hfresh =>
    have hne : a ≠ attemptId := by
      rintro rfl
      rw [hr] at hfresh
      cases hfresh
    exact (db.jobAttempts.get?_set_of_ne _ hne).trans hr
  | registered attemptId attempt job runtime now events hf hs =>
    exact (db.jobAttempts.get?_set_of_ne _ (hflight hf (by rw [hs]; rfl))).trans hr
  | presumed attemptId attempt job now events hf hs =>
    exact (db.jobAttempts.get?_set_of_ne _ (hflight hf (by rw [hs]; rfl))).trans hr
  | succeeded attemptId attempt job result receipt now events hf hs =>
    exact (db.jobAttempts.get?_set_of_ne _ (hflight hf (by rw [hs]; rfl))).trans hr
  | ended attemptId attempt job newState result failures now events hf hu =>
    exact (db.jobAttempts.get?_set_of_ne _ (hflight hf hu)).trans hr
  | requeued attemptId attempt job newState failure retry now events hf hu =>
    exact (db.jobAttempts.get?_set_of_ne _ (hflight hf hu)).trans hr

/-- **A job stays, its version never falls, and it rises with every change of state.** -/
theorem QueueMove.job_grows {db db' : JobDatabase} {kind : MoveKind} (hm : QueueMove db kind db')
    {j : JobId} {row : JobRow} (hrow : db.jobs.get? j = some row) :
    ∃ row', db'.jobs.get? j = some row' ∧ row.stateVersion ≤ row'.stateVersion ∧
      (row'.state ≠ row.state → row.stateVersion < row'.stateVersion) := by
  have hsame : ∃ row', db.jobs.get? j = some row' ∧ row.stateVersion ≤ row'.stateVersion ∧
      (row'.state ≠ row.state → row.stateVersion < row'.stateVersion) :=
    ⟨row, hrow, le_rfl, fun hne => absurd rfl hne⟩
  have hset : ∀ {J : JobId} {old new : JobRow}, db.jobs.get? J = some old →
      old.stateVersion ≤ new.stateVersion →
      (new.state ≠ old.state → old.stateVersion < new.stateVersion) →
      ∃ row', (db.jobs.set J new).get? j = some row' ∧ row.stateVersion ≤ row'.stateVersion ∧
        (row'.state ≠ row.state → row.stateVersion < row'.stateVersion) := by
    intro J old new hold hle hlt
    rw [Dict.get?_set]
    split
    · rename_i hj
      subst hj
      obtain rfl := Option.some.inj (hrow.symm.trans hold)
      exact ⟨new, rfl, hle, hlt⟩
    · exact hsame
  have hmoved : ∀ {a : AttemptId} {attempt : AttemptRow} {job new : JobRow},
      InFlight db a attempt job → new.stateVersion = attempt.stateVersion + 1 →
      ∃ row', (db.jobs.set attempt.jobId new).get? j = some row' ∧
        row.stateVersion ≤ row'.stateVersion ∧
        (row'.state ≠ row.state → row.stateVersion < row'.stateVersion) := by
    intro a attempt job new hf hv
    have hlt : job.stateVersion < new.stateVersion := by
      rw [hv, hf.version]
      exact Nat.lt_succ_self _
    exact hset hf.job_eq hlt.le fun _ => hlt
  cases hm with
  | logged => exact hsame
  | renewed => exact hsame
  | submitted jobId new events habsent =>
    have hne : j ≠ jobId := by
      rintro rfl
      rw [hrow] at habsent
      cases habsent
    rw [← db.jobs.get?_set_of_ne new hne] at hsame
    exact hsame
  | withdrawn jobId old now events hknown =>
    exact hset hknown (Nat.le_succ _) fun _ => Nat.lt_succ_self _
  | asked jobId old now events hknown => exact hset hknown le_rfl fun hne => absurd rfl hne
  | retried jobId old now events hknown =>
    exact hset hknown (Nat.le_succ _) fun _ => Nat.lt_succ_self _
  | claimed jobId old attemptId attempt now events hknown =>
    exact hset hknown (Nat.le_succ _) fun _ => Nat.lt_succ_self _
  | registered attemptId attempt job runtime now events hf => exact hmoved hf rfl
  | presumed attemptId attempt job now events hf => exact hmoved hf rfl
  | succeeded attemptId attempt job result receipt now events hf => exact hmoved hf rfl
  | ended attemptId attempt job newState result failures now events hf => exact hmoved hf rfl
  | requeued attemptId attempt job newState failure retry now events hf => exact hmoved hf rfl

/-- An attempt stays, with its number, and its version rises with every change of state. -/
theorem QueueMove.attempt_grows {db db' : JobDatabase} {kind : MoveKind}
    (hm : QueueMove db kind db') {a : AttemptId} {r : AttemptRow}
    (hr : db.jobAttempts.get? a = some r) :
    ∃ r', db'.jobAttempts.get? a = some r' ∧ r'.jobId = r.jobId ∧
      r'.attemptNumber = r.attemptNumber ∧
      r'.supervisorInstanceId = r.supervisorInstanceId ∧ r.stateVersion ≤ r'.stateVersion ∧
      (r'.state ≠ r.state → r.stateVersion < r'.stateVersion) := by
  have hsame : ∃ r', db.jobAttempts.get? a = some r' ∧ r'.jobId = r.jobId ∧
      r'.attemptNumber = r.attemptNumber ∧
      r'.supervisorInstanceId = r.supervisorInstanceId ∧ r.stateVersion ≤ r'.stateVersion ∧
      (r'.state ≠ r.state → r.stateVersion < r'.stateVersion) :=
    ⟨r, hr, rfl, rfl, rfl, le_rfl, fun hne => absurd rfl hne⟩
  have hmoved : ∀ {b : AttemptId} {attempt : AttemptRow} {job : JobRow} {newState : AttemptState}
      {result : Option ContentDigest} {now : Nat}, InFlight db b attempt job →
      ∃ r', (db.jobAttempts.set b (attempt.moved newState result now)).get? a = some r' ∧
        r'.jobId = r.jobId ∧ r'.attemptNumber = r.attemptNumber ∧
        r'.supervisorInstanceId = r.supervisorInstanceId ∧ r.stateVersion ≤ r'.stateVersion ∧
        (r'.state ≠ r.state → r.stateVersion < r'.stateVersion) := by
    intro b attempt job newState result now hf
    rw [Dict.get?_set]
    split
    · rename_i ha
      subst ha
      obtain rfl := Option.some.inj (hf.attempt_eq.symm.trans hr)
      exact ⟨_, rfl, rfl, rfl, rfl, Nat.le_succ _, fun _ => Nat.lt_succ_self _⟩
    · exact hsame
  cases hm with
  | logged => exact hsame
  | renewed => exact hsame
  | submitted => exact hsame
  | withdrawn => exact hsame
  | asked => exact hsame
  | retried => exact hsame
  | claimed jobId row attemptId attempt now events hknown hqueued hfresh =>
    have hne : a ≠ attemptId := by
      rintro rfl
      rw [hr] at hfresh
      cases hfresh
    rw [← db.jobAttempts.get?_set_of_ne attempt hne] at hsame
    exact hsame
  | registered attemptId attempt job runtime now events hf => exact hmoved hf
  | presumed attemptId attempt job now events hf => exact hmoved hf
  | succeeded attemptId attempt job result receipt now events hf => exact hmoved hf
  | ended attemptId attempt job newState result failures now events hf => exact hmoved hf
  | requeued attemptId attempt job newState failure retry now events hf => exact hmoved hf

/-- A cancellation that was acknowledged stays, but for a retry by hand. -/
theorem QueueMove.cancel_kept {db db' : JobDatabase} {kind : MoveKind}
    (hm : QueueMove db kind db') {j : JobId} {row : JobRow} (hkind : kind ≠ .byHand j)
    (hrow : db.jobs.get? j = some row) (hcancel : row.cancelRequested = true) :
    ∃ row', db'.jobs.get? j = some row' ∧ row'.cancelRequested = true := by
  have hset : ∀ {J : JobId} {old new : JobRow}, db.jobs.get? J = some old →
      (old.cancelRequested = true → new.cancelRequested = true) →
      ∃ row', (db.jobs.set J new).get? j = some row' ∧ row'.cancelRequested = true := by
    intro J old new hold himp
    rw [Dict.get?_set]
    split
    · rename_i hj
      subst hj
      obtain rfl := Option.some.inj (hrow.symm.trans hold)
      exact ⟨new, rfl, himp hcancel⟩
    · exact ⟨row, hrow, hcancel⟩
  cases hm with
  | logged => exact ⟨row, hrow, hcancel⟩
  | renewed => exact ⟨row, hrow, hcancel⟩
  | submitted jobId new events habsent =>
    have hne : j ≠ jobId := by
      rintro rfl
      rw [hrow] at habsent
      cases habsent
    exact ⟨row, (db.jobs.get?_set_of_ne new hne).trans hrow, hcancel⟩
  | withdrawn jobId old now events hknown => exact hset hknown fun _ => rfl
  | asked jobId old now events hknown => exact hset hknown fun _ => rfl
  | retried jobId old now events hknown =>
    have hne : j ≠ jobId := fun he => hkind (by rw [he])
    exact ⟨row, (db.jobs.get?_set_of_ne _ hne).trans hrow, hcancel⟩
  | claimed jobId old attemptId attempt now events hknown => exact hset hknown id
  | registered attemptId attempt job runtime now events hf => exact hset hf.job_eq id
  | presumed attemptId attempt job now events hf => exact hset hf.job_eq id
  | succeeded attemptId attempt job result receipt now events hf => exact hset hf.job_eq id
  | ended attemptId attempt job newState result failures now events hf => exact hset hf.job_eq id
  | requeued attemptId attempt job newState failure retry now events hf =>
    exact hset hf.job_eq id

/-! ## Versions that a call expects -/

/-- The attempt and the version a call expects. -/
def QueueCall.expects : QueueCall → Option (AttemptId × Nat)
  | transition attemptId version _ _ _ => some (attemptId, version)
  | registerProcess claimed _ _ _ _ =>
    some (claimed.attempt.attemptId, claimed.attempt.stateVersion)
  | heartbeat attemptId version _ _ _ => some (attemptId, version)
  | recordProgress attemptId version _ _ _ => some (attemptId, version)
  | finishUnsuccessful attemptId version _ _ _ => some (attemptId, version)
  | finishCancelled attemptId version _ => some (attemptId, version)
  | completeVerified attemptId version _ _ => some (attemptId, version)
  | _ => none

/-- The attempt of an accepted transition is at the version the call expects. -/
theorem transitionWithBarrier_version {db db' : JobDatabase} {attemptId : AttemptId}
    {version : Nat} {newState : AttemptState} {result : Option ContentDigest} {allow : Bool}
    {now : Nat} {receipt : Option AttemptCompletionReceipt} {moved : JobAttempt}
    (h : db.transitionWithBarrier attemptId version newState result allow now receipt
      = .ok (db', moved)) :
    ∃ r, db.jobAttempts.get? attemptId = some r ∧ r.stateVersion = version := by
  obtain ⟨attempt, job, indexed, hf, hv, -⟩ := transitionWithBarrier_eq_ok h
  exact ⟨attempt, hf.attempt_eq, hv⟩

/-- The attempt a guard has passed for is at the version the guard expects. -/
theorem attempt_version {db : JobDatabase} {attemptId : AttemptId} {attempt : AttemptRow}
    {job : JobRow} {version : Nat} {state : AttemptState} {operation : String}
    (hrow : db.attemptRow attemptId = .ok (attempt, job))
    (hguard : requireCurrentAttempt attemptId attempt job version state operation = .ok ()) :
    ∃ r, db.jobAttempts.get? attemptId = some r ∧ r.stateVersion = version :=
  ⟨attempt, (attemptRow_eq_ok.mp hrow).1, (requireCurrentAttempt_eq_ok.mp hguard).2.1⟩

/-- An accepted call found its attempt at the version it expects. -/
theorem QueueCall.run_expects {db db' : JobDatabase} {call : QueueCall} {attemptId : AttemptId}
    {version : Nat} (h : call.run db = .ok db')
    (hexpects : call.expects = some (attemptId, version)) :
    ∃ r, db.jobAttempts.get? attemptId = some r ∧ r.stateVersion = version := by
  cases call with
  | submit => cases hexpects
  | requestCancel => cases hexpects
  | requestRetry => cases hexpects
  | claimNextForTypes => cases hexpects
  | transition =>
    cases hexpects
    obtain ⟨_, h⟩ := map_fst_eq_ok.mp h
    exact transitionWithBarrier_version (check_bind_eq_ok.mp h).2
  | registerProcess =>
    cases hexpects
    obtain ⟨_, h⟩ := map_fst_eq_ok.mp h
    rw [JobDatabase.registerProcess] at h
    obtain ⟨-, h⟩ := check_bind_eq_ok.mp h
    obtain ⟨-, h⟩ := check_bind_eq_ok.mp h
    obtain ⟨-, h⟩ := check_bind_eq_ok.mp h
    obtain ⟨⟨attempt, job⟩, hrow, h⟩ := bind_eq_ok.mp h
    exact attempt_version hrow (check_bind_eq_ok.mp h).1
  | heartbeat =>
    cases hexpects
    rw [run, JobDatabase.heartbeat] at h
    obtain ⟨-, h⟩ := check_bind_eq_ok.mp h
    obtain ⟨-, h⟩ := check_bind_eq_ok.mp h
    obtain ⟨⟨attempt, job⟩, hrow, h⟩ := bind_eq_ok.mp h
    exact attempt_version hrow (check_bind_eq_ok.mp h).1
  | recordProgress =>
    cases hexpects
    rw [run, JobDatabase.recordProgress] at h
    obtain ⟨-, h⟩ := check_bind_eq_ok.mp h
    obtain ⟨⟨attempt, job⟩, hrow, h⟩ := bind_eq_ok.mp h
    dsimp only at h
    split at h
    · cases h
    · exact attempt_version hrow (check_bind_eq_ok.mp h).1
  | finishUnsuccessful =>
    cases hexpects
    obtain ⟨_, h⟩ := map_fst_eq_ok.mp h
    rw [JobDatabase.finishUnsuccessful] at h
    obtain ⟨-, h⟩ := check_bind_eq_ok.mp h
    obtain ⟨⟨attempt, job⟩, hrow, h⟩ := bind_eq_ok.mp h
    obtain ⟨-, h⟩ := check_bind_eq_ok.mp h
    exact attempt_version hrow (check_bind_eq_ok.mp h).1
  | finishCancelled =>
    cases hexpects
    obtain ⟨_, h⟩ := map_fst_eq_ok.mp h
    exact transitionWithBarrier_version h
  | completeVerified =>
    cases hexpects
    obtain ⟨_, h⟩ := map_fst_eq_ok.mp h
    exact transitionWithBarrier_version (check_bind_eq_ok.mp h).2

theorem apply_of_ok {db db' : JobDatabase} {call : QueueCall} (h : call.run db = .ok db') :
    db.apply call = db' := by rw [JobDatabase.apply, h]

theorem apply_of_error {db : JobDatabase} {call : QueueCall} {fault : QueueFault}
    (h : call.run db = .error fault) : db.apply call = db := by rw [JobDatabase.apply, h]

/-- **A call that expects another version changes nothing.** -/
theorem apply_of_stale {db : JobDatabase} {call : QueueCall} {attemptId : AttemptId}
    {version : Nat} (hexpects : call.expects = some (attemptId, version))
    (hstale : ∀ r, db.jobAttempts.get? attemptId = some r → r.stateVersion ≠ version) :
    db.apply call = db := by
  cases h : call.run db with
  | error fault => exact apply_of_error h
  | ok db' =>
    obtain ⟨r, hr, hv⟩ := QueueCall.run_expects h hexpects
    exact absurd hv (hstale r hr)

/-! ## Cancellation -/

/-- An acknowledged cancellation stands in the row of its job. -/
theorem requestCancel_acknowledged {db db' : JobDatabase} {now : Nat} {jobId : JobId}
    (hsound : QueueSound db) (h : db.requestCancel now jobId = .ok db') :
    ∃ row, db'.jobs.get? jobId = some row ∧ row.cancelRequested = true := by
  rw [JobDatabase.requestCancel] at h
  split at h
  · cases h
  · rename_i row hrow
    split at h
    · rename_i hcancelled
      obtain rfl := Except.ok.inj h
      exact ⟨row, hrow, (hsound.job _ _ hrow).cancelled hcancelled⟩
    · split at h
      · cases h
      · split at h
        · rename_i hasked
          obtain rfl := Except.ok.inj h
          exact ⟨row, hrow, hasked⟩
        · split at h
          · obtain rfl := Except.ok.inj h
            exact ⟨_, Dict.get?_set_self _ _ _, rfl⟩
          · obtain rfl := Except.ok.inj h
            exact ⟨_, Dict.get?_set_self _ _ _, rfl⟩

/-- Every retry by hand of a job is refused in a run. -/
def NoRetryOf (jobId : JobId) (db : JobDatabase) (calls : List QueueCall) : Prop :=
  ∀ before now after, calls = before ++ .requestRetry now jobId :: after →
    ∃ fault, (QueueCall.requestRetry now jobId).run (db.applyAll before) = .error fault

theorem NoRetryOf.tail {jobId : JobId} {db : JobDatabase} {call : QueueCall}
    {calls : List QueueCall} (h : NoRetryOf jobId db (call :: calls)) :
    NoRetryOf jobId (db.apply call) calls := by
  rintro before now after rfl
  exact h (call :: before) now after rfl

theorem eq_requestRetry_of_kind {call : QueueCall} {jobId : JobId}
    (h : call.kind = .byHand jobId) : ∃ now, call = .requestRetry now jobId := by
  cases call with
  | requestRetry now j =>
    cases h
    exact ⟨now, rfl⟩
  | transition a v newState =>
    rw [QueueCall.kind] at h
    split at h <;> cases h
  | _ => cases h

/-- One call that is not an accepted retry keeps an acknowledged cancellation. -/
theorem cancel_kept_apply {db : JobDatabase} {call : QueueCall} {calls : List QueueCall}
    {jobId : JobId} {row : JobRow} (hno : NoRetryOf jobId db (call :: calls))
    (hrow : db.jobs.get? jobId = some row) (hcancel : row.cancelRequested = true) :
    ∃ row', (db.apply call).jobs.get? jobId = some row' ∧ row'.cancelRequested = true := by
  by_cases hkind : call.kind = .byHand jobId
  · obtain ⟨now, rfl⟩ := eq_requestRetry_of_kind hkind
    obtain ⟨fault, hfault⟩ := hno [] now calls rfl
    have hfault' : (QueueCall.requestRetry now jobId).run db = .error fault := hfault
    rw [apply_of_error hfault']
    exact ⟨row, hrow, hcancel⟩
  · rcases apply_move db call with hm | hm
    · exact hm.cancel_kept hkind hrow hcancel
    · rw [hm]
      exact ⟨row, hrow, hcancel⟩

/-- A run without an accepted retry of the job keeps its acknowledged cancellation. -/
theorem cancel_kept_applyAll {db : JobDatabase} {calls : List QueueCall} {jobId : JobId}
    {row : JobRow} (hno : NoRetryOf jobId db calls) (hrow : db.jobs.get? jobId = some row)
    (hcancel : row.cancelRequested = true) :
    ∃ row', (db.applyAll calls).jobs.get? jobId = some row' ∧ row'.cancelRequested = true := by
  induction calls generalizing db row with
  | nil => exact ⟨row, hrow, hcancel⟩
  | cons call rest ih =>
    obtain ⟨row', hrow', hcancel'⟩ := cancel_kept_apply hno hrow hcancel
    exact ih hno.tail hrow' hcancel'

/-! ## Safety -/

/-- The safety of one state of the queue. -/
structure QueueSafe (db : JobDatabase) : Prop where
  one_unfinished : ∀ a r a' r', db.jobAttempts.get? a = some r →
    db.jobAttempts.get? a' = some r' → r.jobId = r'.jobId → r.state.isUnfinished = true →
    r'.state.isUnfinished = true → a = a'
  live : ∀ j row, db.jobs.get? j = some row → row.state.isUnfinished = true →
    ∃ a r, row.currentAttemptId = some a ∧ db.jobAttempts.get? a = some r ∧ r.jobId = j ∧
      r.state = row.state ∧ ∀ a' r', db.jobAttempts.get? a' = some r' → r'.jobId = j →
        r'.state.isUnfinished = true → a' = a
  queued : ∀ j row, db.jobs.get? j = some row → row.state = .queued →
    row.currentAttemptId = none ∧ row.cancelRequested = false
  scheduled : ∀ j retry, db.jobRetrySchedule.get? j = some retry →
    ∃ row, db.jobs.get? j = some row ∧ row.state = .queued
  succeeded : ∀ j row, db.jobs.get? j = some row → row.state = .succeeded →
    row.cancelRequested = false ∧ ∃ a r receipt, db.jobAttempts.get? a = some r ∧ r.jobId = j ∧
      r.state = .succeeded ∧ db.completionReceipts.get? a = some receipt ∧
      ∀ a' r', db.jobAttempts.get? a' = some r' → r'.jobId = j → r'.state = .succeeded → a' = a

/-- The safety of one call of the queue. -/
structure CallSafe (db : JobDatabase) (call : QueueCall) : Prop where
  terminal : ∀ a r, db.jobAttempts.get? a = some r → r.state.isTerminal = true →
    (db.apply call).jobAttempts.get? a = some r
  job_version : ∀ j row, db.jobs.get? j = some row →
    ∃ row', (db.apply call).jobs.get? j = some row' ∧ row.stateVersion ≤ row'.stateVersion ∧
      (row'.state ≠ row.state → row.stateVersion < row'.stateVersion)
  attempt_version : ∀ a r, db.jobAttempts.get? a = some r →
    ∃ r', (db.apply call).jobAttempts.get? a = some r' ∧ r.stateVersion ≤ r'.stateVersion ∧
      (r'.state ≠ r.state → r.stateVersion < r'.stateVersion)
  stale : ∀ a v, call.expects = some (a, v) →
    (∀ r, db.jobAttempts.get? a = some r → r.stateVersion ≠ v) → db.apply call = db

/-- A cancellation acknowledged in a state keeps its job from success, whatever comes after it
but an accepted retry of the job by hand. -/
def CancelSafe (db : JobDatabase) : Prop :=
  ∀ now jobId db', db.requestCancel now jobId = .ok db' → ∀ calls, NoRetryOf jobId db' calls →
    ∀ row, (db'.applyAll calls).jobs.get? jobId = some row → row.state ≠ .succeeded

/-- An unfinished attempt is the current one of its job. -/
theorem QueueSound.current_of_unfinished {db : JobDatabase} (h : QueueSound db) {a : AttemptId}
    {r : AttemptRow} {row : JobRow} (hr : db.jobAttempts.get? a = some r)
    (hrow : db.jobs.get? r.jobId = some row) (hu : r.state.isUnfinished = true) :
    row.currentAttemptId = some a := by
  by_contra hne
  rcases (h.job _ _ hrow).past a r hr rfl hne with hs | hs <;> rw [hs] at hu <;> cases hu

theorem QueueSound.safe {db : JobDatabase} (h : QueueSound db) : QueueSafe db where
  one_unfinished := by
    intro a r a' r' hr hr' hj hu hu'
    obtain ⟨row, hrow⟩ := (h.attempt a r hr).home
    have hcurrent := h.current_of_unfinished hr hrow hu
    have hcurrent' := h.current_of_unfinished hr' (hj ▸ hrow) hu'
    exact Option.some.inj (hcurrent.symm.trans hcurrent')
  live := by
    intro j row hrow hu
    have hjob := h.job j row hrow
    cases hcurrent : row.currentAttemptId with
    | none =>
      rcases hjob.idle hcurrent with hs | hs <;> rw [hs] at hu <;> cases hu
    | some a =>
      obtain ⟨r, hr, hj, hs, -⟩ := hjob.current a hcurrent
      refine ⟨a, r, rfl, hr, hj, hs, fun a' r' hr' hj' hu' => ?_⟩
      have hcurrent' := h.current_of_unfinished hr' (hj' ▸ hrow) hu'
      exact Option.some.inj (hcurrent'.symm.trans hcurrent)
  queued := fun j row hrow hs => (h.job j row hrow).queued hs
  scheduled := by
    intro j retry hretry
    have hne : db.jobRetrySchedule.get? j ≠ none := by simp [hretry]
    obtain ⟨row, hrow⟩ := h.scheduled j hne
    exact ⟨row, hrow, (h.job j row hrow).scheduled hne⟩
  succeeded := by
    intro j row hrow hs
    have hjob := h.job j row hrow
    obtain ⟨hcancel, a, ha, hreceipt⟩ := hjob.succeeded hs
    obtain ⟨r, hr, hj, hstate, -⟩ := hjob.current a ha
    obtain ⟨receipt, hreceipt⟩ := Option.ne_none_iff_exists'.mp hreceipt
    refine ⟨hcancel, a, r, receipt, hr, hj, hstate.trans hs, hreceipt, fun a' r' hr' hj' hs' => ?_⟩
    by_contra hne
    have hpast := hjob.past a' r' hr' hj' (by rw [ha]; exact fun he => hne (Option.some.inj he).symm)
    rcases hpast with h' | h' <;> rw [hs'] at h' <;> cases h'

theorem callSafe (db : JobDatabase) (call : QueueCall) : CallSafe db call where
  terminal := by
    intro a r hr ht
    rcases apply_move db call with hm | hm
    · exact hm.kept hr ht
    · rwa [hm]
  job_version := by
    intro j row hrow
    rcases apply_move db call with hm | hm
    · exact hm.job_grows hrow
    · rw [hm]
      exact ⟨row, hrow, le_rfl, fun hne => absurd rfl hne⟩
  attempt_version := by
    intro a r hr
    rcases apply_move db call with hm | hm
    · obtain ⟨r', hr', -, -, -, hv⟩ := hm.attempt_grows hr
      exact ⟨r', hr', hv⟩
    · rw [hm]
      exact ⟨r, hr, le_rfl, fun hne => absurd rfl hne⟩
  stale := fun _ _ => apply_of_stale

theorem cancelSafe {db : JobDatabase} (h : db.Reachable) : CancelSafe db := by
  intro now jobId db' hcancel calls hno row hrow hs
  obtain ⟨row', hrow', hasked⟩ := requestCancel_acknowledged h.sound hcancel
  obtain ⟨row'', hrow'', hstill⟩ := cancel_kept_applyAll hno hrow' hasked
  obtain rfl := Option.some.inj (hrow.symm.trans hrow'')
  have hreach : (db'.applyAll calls).Reachable := by
    have hcall : db.apply (.requestCancel now jobId) = db' := apply_of_ok hcancel
    rw [← hcall]
    exact (h.call _).applyAll calls
  have hfree := ((hreach.sound.job _ _ hrow).succeeded hs).1
  rw [hstill] at hfree
  cases hfree

/-- **Safety of the job queue**, in every state any sequence of calls leaves: the tables agree,
terminal attempts stay, versions grow, stale calls change nothing, and an acknowledged cancellation
keeps its job from success for as long as no retry by hand of the job is accepted. -/
theorem queue_safe (calls : List QueueCall) :
    QueueSafe (JobDatabase.empty.applyAll calls) ∧
      (∀ call, CallSafe (JobDatabase.empty.applyAll calls) call) ∧
      CancelSafe (JobDatabase.empty.applyAll calls) :=
  ⟨(reachable_applyAll calls).sound.safe, callSafe _, cancelSafe (reachable_applyAll calls)⟩

/-! ## A job that succeeds after its cancellation -/

section Sample

def sampleSpec : ResolvedJobSpec := ⟨{ hex := 1 }, .runBacktest, []⟩

def samplePolicy : JobExecutionPolicy where
  lane := .run
  demand := ⟨1, 1, 1, 0, 0, by decide, by decide, by decide⟩
  timeoutNs := 100
  leaseDurationNs := 10
  retry := ⟨1, [], 1, 1, by decide, by decide, fun _ => rfl⟩
  memoryBreachSamples := 1
  swapActivitySamples := 1
  requireResourceObservation := false
  timeout_pos := by decide
  lease_pos := by decide
  memory_samples_pos := by decide
  swap_samples_pos := by decide

/-- The first or second attempt at the sample job, as it was claimed. -/
def sampleClaimed (attemptId : AttemptId) (version number : Nat) : ClaimedAttempt :=
  ⟨⟨attemptId, ⟨"job"⟩, sampleSpec, .starting, version⟩, number⟩

/-- The sample job runs. -/
def sampleStart : List QueueCall :=
  [.submit ⟨"job"⟩ 0 sampleSpec "key",
    .claimNextForTypes ⟨"first"⟩ "supervisor" [.runBacktest] 1,
    .registerProcess (sampleClaimed ⟨"first"⟩ 1 1) ⟨7, "token"⟩ samplePolicy "supervisor" 2]

/-- The sample attempt fails, its job is queued again by hand, and the second attempt completes. -/
def sampleRetry : List QueueCall :=
  [.transition ⟨"first"⟩ 2 .failed none 4,
    .requestRetry 5 ⟨"job"⟩,
    .claimNextForTypes ⟨"second"⟩ "supervisor" [.runBacktest] 6,
    .registerProcess (sampleClaimed ⟨"second"⟩ 5 2) ⟨8, "token"⟩ samplePolicy "supervisor" 7,
    .completeVerified ⟨"second"⟩ 6 ⟨⟨"second"⟩, { hex := 1 }, { hex := 2 }, []⟩ 8]

/-- A cancellation is acknowledged while the sample job runs, and the job ends in success: the
retry by hand takes the cancellation back. -/
theorem cancelled_job_succeeds :
    (∃ db, (JobDatabase.empty.applyAll sampleStart).requestCancel 3 ⟨"job"⟩ = .ok db ∧
      ((db.applyAll sampleRetry).jobs.get? ⟨"job"⟩).map (·.state) = some .succeeded) ∧
    ¬ ∀ calls now jobId db more row,
      (JobDatabase.empty.applyAll calls).requestCancel now jobId = .ok db →
      (db.applyAll more).jobs.get? jobId = some row → row.state ≠ .succeeded := by
  have hrun : ∃ db, (JobDatabase.empty.applyAll sampleStart).requestCancel 3 ⟨"job"⟩ = .ok db ∧
      ((db.applyAll sampleRetry).jobs.get? ⟨"job"⟩).map (·.state) = some .succeeded :=
    ⟨_, rfl, by decide⟩
  refine ⟨hrun, fun hall => ?_⟩
  obtain ⟨db, hdb, hstate⟩ := hrun
  obtain ⟨row, hrow, hs⟩ := Option.map_eq_some_iff.mp hstate
  exact hall sampleStart 3 ⟨"job"⟩ db sampleRetry row hdb hrow hs

end Sample

end Jobs

end OnchainBacktest
