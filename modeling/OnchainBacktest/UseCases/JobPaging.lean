import OnchainBacktest.UseCases.QueryJobs

/-!
# Jobs submitted between pages

A list of jobs is read page by page while the queue works.  A call keeps when every job was
submitted (`submission_kept`), so a job keeps its place in the order; whether it is on the list can
change with its state.  `jobPagingLaw` says what a reading shows.
-/

set_option autoImplicit false

namespace OnchainBacktest

namespace UseCases

open Jobs
open Checked
open Paging (Page above walk)

/-! ## Readings -/

/-- A call of the queue; one whose time of submission a column does not hold is rolled back. -/
def applyStored (db : JobDatabase) (call : QueueCall) : JobDatabase :=
  if SubmissionsStored (db.apply call) then db.apply call else db

/-- A page of a list, and the calls of the queue after it. -/
structure JobVisit where
  limit : Nat
  calls : List QueueCall

/-- What a page is read from. -/
structure JobMoment where
  db : JobDatabase
  limit : Nat

/-- What the pages of a reading are read from. -/
def jobMoments : JobDatabase → List JobVisit → List JobMoment
  | _, [] => []
  | db, visit :: visits =>
    ⟨db, visit.limit⟩ :: jobMoments (visit.calls.foldl applyStored db) visits

/-- The limits a page can be asked for. -/
def ProperJobLimits (visits : List JobVisit) : Prop :=
  ∀ visit ∈ visits, 1 ≤ visit.limit ∧ visit.limit ≤ 1000

/-- The pages of a list from the start, each after the next cursor of the one before. -/
def readJobs (db : JobDatabase) (state : Option AttemptState) (visits : List JobVisit) :
    Except QueueFault (List JobRecord × Bool) :=
  walk (fun moment after => jobPage moment.db state moment.limit 0 after) (jobMoments db visits)
    none

/-- Jobs are submitted and nothing else. -/
def Submits (visits : List JobVisit) : Prop :=
  ∀ visit ∈ visits, ∀ call ∈ visit.calls, ∃ jobId now spec key,
    call = .submit jobId now spec key

/-! ## What a call keeps -/

/-- Every job is there with the time it was submitted. -/
def JobsLater (db db' : JobDatabase) : Prop :=
  ∀ jobId row, db.jobs.get? jobId = some row →
    ∃ row', db'.jobs.get? jobId = some row' ∧ row'.submittedAtNs = row.submittedAtNs

/-- Every row of a job is there. -/
def JobsKept (db db' : JobDatabase) : Prop :=
  ∀ jobId row, db.jobs.get? jobId = some row → db'.jobs.get? jobId = some row

section Later

variable {db db' db'' : JobDatabase}

theorem JobsLater.refl (db : JobDatabase) : JobsLater db db := fun _ row hrow => ⟨row, hrow, rfl⟩

theorem JobsLater.trans (h : JobsLater db db') (h' : JobsLater db' db'') : JobsLater db db'' := by
  intro jobId row hrow
  obtain ⟨row', hrow', hsame⟩ := h jobId row hrow
  obtain ⟨row'', hrow'', hsame'⟩ := h' jobId row' hrow'
  exact ⟨row'', hrow'', hsame'.trans hsame⟩

/-- **A job keeps its time of submission.** -/
theorem submission_kept {kind : MoveKind} (hm : QueueMove db kind db') : JobsLater db db' := by
  intro jobId row hrow
  have hset : ∀ {known : JobId} {old new : JobRow}, db.jobs.get? known = some old →
      new.submittedAtNs = old.submittedAtNs →
      ∃ row', (db.jobs.set known new).get? jobId = some row' ∧
        row'.submittedAtNs = row.submittedAtNs := by
    intro known old new hold hsame
    rw [Dict.get?_set]
    split
    · rename_i heq
      subst heq
      obtain rfl := Option.some.inj (hrow.symm.trans hold)
      exact ⟨new, rfl, hsame⟩
    · exact ⟨row, hrow, rfl⟩
  cases hm with
  | logged => exact ⟨row, hrow, rfl⟩
  | renewed => exact ⟨row, hrow, rfl⟩
  | submitted fresh new events habsent =>
    have hne : jobId ≠ fresh := by
      rintro rfl
      rw [hrow] at habsent
      cases habsent
    exact ⟨row, (db.jobs.get?_set_of_ne new hne).trans hrow, rfl⟩
  | withdrawn known old now events hknown => exact hset hknown rfl
  | asked known old now events hknown => exact hset hknown rfl
  | retried known old now events hknown => exact hset hknown rfl
  | claimed known old attemptId attempt now events hknown => exact hset hknown rfl
  | registered attemptId attempt job runtime now events hf => exact hset hf.job_eq rfl
  | presumed attemptId attempt job now events hf => exact hset hf.job_eq rfl
  | succeeded attemptId attempt job result receipt now events hf => exact hset hf.job_eq rfl
  | ended attemptId attempt job newState result failures now events hf =>
    exact hset hf.job_eq rfl
  | requeued attemptId attempt job newState failure retry now events hf =>
    exact hset hf.job_eq rfl

theorem applyStored_later (h : SubmissionsStored db) (call : QueueCall) :
    SubmissionsStored (applyStored db call) ∧ JobsLater db (applyStored db call) := by
  rw [applyStored]
  split
  · rename_i hstored
    refine ⟨hstored, ?_⟩
    rcases apply_move db call with hm | hsame
    · exact submission_kept hm
    · rw [hsame]
      exact JobsLater.refl db
  · exact ⟨h, JobsLater.refl db⟩

theorem foldl_applyStored_later {calls : List QueueCall} (h : SubmissionsStored db) :
    SubmissionsStored (calls.foldl applyStored db) ∧
      JobsLater db (calls.foldl applyStored db) := by
  induction calls generalizing db with
  | nil => exact ⟨h, JobsLater.refl db⟩
  | cons call calls ih =>
    obtain ⟨hstored, hlater⟩ := applyStored_later h call
    obtain ⟨hend, hrest⟩ := ih hstored
    exact ⟨hend, hlater.trans hrest⟩

/-- A submission leaves every row as it is. -/
theorem submit_kept (jobId : JobId) (now : Nat) (spec : ResolvedJobSpec) (key : String) :
    JobsKept db (applyStored db (.submit jobId now spec key)) := by
  intro known row hrow
  rw [applyStored]
  split
  · rw [JobDatabase.apply]
    split
    · rename_i db' hrun
      obtain ⟨record, hrun⟩ := map_fst_eq_ok.mp hrun
      rw [JobDatabase.submit] at hrun
      obtain ⟨-, hrun⟩ := check_bind_eq_ok.mp hrun
      split at hrun
      · obtain ⟨-, hrun⟩ := check_bind_eq_ok.mp hrun
        obtain ⟨rfl, -⟩ := Prod.mk.inj (Except.ok.inj hrun)
        exact hrow
      · obtain ⟨jobs, hjobs, hrun⟩ := bind_eq_ok.mp hrun
        obtain ⟨habsent, rfl⟩ := insertRow_eq_ok.mp hjobs
        obtain ⟨rfl, -⟩ := Prod.mk.inj (Except.ok.inj hrun)
        have hne : known ≠ jobId := by
          rintro rfl
          rw [hrow] at habsent
          cases habsent
        exact (db.jobs.get?_set_of_ne _ hne).trans hrow
    · exact hrow
  · exact hrow

theorem foldl_submits_kept {calls : List QueueCall}
    (h : ∀ call ∈ calls, ∃ jobId now spec key, call = .submit jobId now spec key) :
    JobsKept db (calls.foldl applyStored db) := by
  induction calls generalizing db with
  | nil => exact fun _ _ hrow => hrow
  | cons call calls ih =>
    intro known row hrow
    obtain ⟨jobId, now, spec, key, rfl⟩ := h call List.mem_cons_self
    exact ih (fun c hc => h c (List.mem_cons_of_mem _ hc)) known row
      (submit_kept jobId now spec key known row hrow)

/-! ## A reading -/

theorem jobMoments_later {visits : List JobVisit} (h : SubmissionsStored db) :
    ∀ moment ∈ jobMoments db visits, SubmissionsStored moment.db ∧ JobsLater db moment.db := by
  induction visits generalizing db with
  | nil => simp [jobMoments]
  | cons visit visits ih =>
    intro moment hmoment
    rcases List.mem_cons.mp hmoment with rfl | hmoment
    · exact ⟨h, JobsLater.refl db⟩
    · obtain ⟨hstored, hlater⟩ := @foldl_applyStored_later db visit.calls h
      obtain ⟨hthere, hrest⟩ := ih hstored moment hmoment
      exact ⟨hthere, hlater.trans hrest⟩

theorem jobMoments_pairwise {visits : List JobVisit} (h : SubmissionsStored db) :
    (jobMoments db visits).Pairwise fun moment moment' => JobsLater moment.db moment'.db := by
  induction visits generalizing db with
  | nil => exact List.Pairwise.nil
  | cons visit visits ih =>
    obtain ⟨hstored, hlater⟩ := @foldl_applyStored_later db visit.calls h
    exact List.Pairwise.cons (fun moment hmoment =>
      hlater.trans (jobMoments_later hstored moment hmoment).2) (ih hstored)

theorem jobMoments_kept {visits : List JobVisit} (h : Submits visits) :
    ∀ moment ∈ jobMoments db visits, JobsKept db moment.db := by
  induction visits generalizing db with
  | nil => simp [jobMoments]
  | cons visit visits ih =>
    intro moment hmoment known row hrow
    rcases List.mem_cons.mp hmoment with rfl | hmoment
    · exact hrow
    · exact ih (fun v hv => h v (List.mem_cons_of_mem _ hv)) moment hmoment known row
        (foldl_submits_kept (h visit List.mem_cons_self) known row hrow)

theorem jobMoments_limits {visits : List JobVisit} (h : ProperJobLimits visits) :
    ∀ moment ∈ jobMoments db visits, 1 ≤ moment.limit ∧ moment.limit ≤ 1000 := by
  induction visits generalizing db with
  | nil => simp [jobMoments]
  | cons visit visits ih =>
    intro moment hmoment
    rcases List.mem_cons.mp hmoment with rfl | hmoment
    · exact h visit List.mem_cons_self
    · exact ih (fun v hv => h v (List.mem_cons_of_mem _ hv)) moment hmoment

theorem jobMoments_still {visits : List JobVisit} (h : ∀ visit ∈ visits, visit.calls = []) :
    (jobMoments db visits).map JobMoment.limit = visits.map JobVisit.limit ∧
      ∀ moment ∈ jobMoments db visits, moment.db = db := by
  induction visits with
  | nil => simp [jobMoments]
  | cons visit visits ih =>
    have hrest := ih fun v hv => h v (List.mem_cons_of_mem _ hv)
    rw [jobMoments, h visit List.mem_cons_self, List.foldl_nil, List.map_cons, List.map_cons,
      hrest.1]
    refine ⟨rfl, fun moment hmoment => ?_⟩
    rcases List.mem_cons.mp hmoment with rfl | hmoment
    · rfl
    · exact hrest.2 moment hmoment

/-- The places of a job at two moments of a reading are one. -/
theorem submitted_once {visits : List JobVisit} (h : SubmissionsStored db)
    {moment moment' : JobMoment} (hmoment : moment ∈ jobMoments db visits)
    (hmoment' : moment' ∈ jobMoments db visits) {state : Option AttemptState}
    {record record' : JobRecord} (hrecord : record ∈ jobRecords moment.db state)
    (hrecord' : record' ∈ jobRecords moment'.db state) (hid : record.jobId = record'.jobId) :
    record.submittedAtNs = record'.submittedAtNs := by
  have hlater : ∀ {m m' : JobMoment} {r r' : JobRecord}, JobsLater m.db m'.db →
      r ∈ jobRecords m.db state → r' ∈ jobRecords m'.db state → r.jobId = r'.jobId →
      r.submittedAtNs = r'.submittedAtNs := by
    intro m m' r r' hlater hr hr' hsame
    obtain ⟨row, hrow, -, hread⟩ := mem_jobRecords.mp hr
    obtain ⟨row', hrow', -, hread'⟩ := mem_jobRecords.mp hr'
    obtain ⟨other, hother, htime⟩ := hlater r.jobId row hrow
    rw [hsame, hrow'] at hother
    cases hother
    rw [← hread, ← hread']
    exact htime.symm
  have hpair := @jobMoments_pairwise db visits h
  rcases List.Pairwise.forall_of_forall_of_flip
      (R := fun m m' => JobsLater m.db m'.db ∨ JobsLater m'.db m.db)
      (fun _ _ => .inl (JobsLater.refl _)) (hpair.imp .inl) (hpair.imp .inr) hmoment hmoment'
    with hl | hl
  · exact hlater hl hrecord hrecord' hid
  · exact (hlater hl hrecord' hrecord hid.symm).symm

end Later

/-! ## The paging law -/

/-- What reading a list of jobs page by page does. -/
structure JobPagingLaw (db : JobDatabase) (state : Option AttemptState) : Prop where
  /-- No answer of the queue is refused by the check of the page. -/
  accepted : ∀ limit offset after records,
    listJobs db state limit offset after = .ok records →
      validateJobPage records state after = .ok ()
  /-- A page has no next cursor exactly when it shows all the jobs after its own. -/
  last : ∀ limit after, 1 ≤ limit ∧ limit ≤ 1000 → (∀ cursor ∈ after, cursor.state = state) →
    ∃ page, jobPage db state limit 0 after = .ok page ∧
      (page.next = none ↔ page.items = above (fun record => jobRank (jobMark state record))
        (after.map jobRank) (jobRecords db state))
  /-- With no call in between, the jobs of the list are shown in order, each of them once. -/
  visited : ∀ visits, ProperJobLimits visits → (∀ visit ∈ visits, visit.calls = []) →
    readJobs db state visits =
      .ok ((jobRecords db state).take (visits.map JobVisit.limit).sum,
        decide (visits ≠ [] ∧
          (jobRecords db state).length ≤ (visits.map JobVisit.limit).sum))
  /-- Whatever the queue does in between, no job is shown twice, and one that is on the list at
  every page is shown; when jobs are submitted only, that is every job of the start. -/
  interleaved : ∀ visits, ProperJobLimits visits →
    ∃ items ended, readJobs db state visits = .ok (items, ended) ∧
      (items.map fun record => jobRank (jobMark state record)).Pairwise (· < ·) ∧
      (items.map JobRecord.jobId).Nodup ∧
      (ended = true → ∀ record ∈ jobRecords db state,
        (∀ moment ∈ jobMoments db visits, ∃ shown ∈ jobRecords moment.db state,
          shown.jobId = record.jobId) → ∃ shown ∈ items, shown.jobId = record.jobId) ∧
      (ended = true → Submits visits → ∀ record ∈ jobRecords db state, record ∈ items)

section Law

variable {db : JobDatabase} {state : Option AttemptState} {moments : List JobMoment}

/-- The pages that are read. -/
theorem jobPage_reads (hstored : ∀ moment ∈ moments, SubmissionsStored moment.db)
    (hlimits : ∀ moment ∈ moments, 1 ≤ moment.limit ∧ moment.limit ≤ 1000) :
    Paging.Reads (fun moment after => jobPage moment.db state moment.limit 0 after)
      (fun record => record)
      (fun moment after => Paging.page (jobMark state) jobRank (jobRecords moment.db state) after
        moment.limit)
      (fun after => ∀ cursor ∈ after, cursor.state = state) moments where
  page moment hmoment after hafter page hpage := by
    rw [jobPage_eq (hstored moment hmoment) (hlimits moment hmoment) hafter] at hpage
    rw [Paging.Page.map_self, Except.ok.inj hpage]
  next moment _ after _ cursor hnext := by
    obtain ⟨-, last, -, rfl⟩ := Paging.cut_next_eq_some hnext
    intro c hc
    obtain rfl := Option.mem_some_iff.mp hc
    rfl

/-- A reading ends with a page or with the visits, never with a fault. -/
theorem readJobs_eq_ok (h : SubmissionsStored db) {visits : List JobVisit}
    (hlimits : ProperJobLimits visits) : ∃ items ended,
    readJobs db state visits = .ok (items, ended) ∧
      walk (Paging.pages (ε := QueueFault) (jobMark state) jobRank
        (fun moment => jobRecords moment.db state) JobMoment.limit) (jobMoments db visits) none =
          .ok (items, ended) := by
  have hstored := fun moment hmoment => (@jobMoments_later db visits h moment hmoment).1
  have hproper := @jobMoments_limits db visits hlimits
  have hreads := @jobPage_reads state _ hstored hproper
  cases hwalk : readJobs db state visits with
  | error fault =>
    obtain ⟨moment, hmoment, after, hafter, hpage⟩ := hreads.walk_eq_error (by simp) hwalk
    rw [jobPage_eq (hstored moment hmoment) (hproper moment hmoment) hafter] at hpage
    cases hpage
  | ok read =>
    obtain ⟨items, ended⟩ := read
    have hshown := hreads.walk_eq_ok (by simp) hwalk
    rw [List.map_id'] at hshown
    exact ⟨items, ended, rfl, hshown⟩

/-- **The paging law of the jobs.**  It holds of every list. -/
theorem jobPagingLaw (h : SubmissionsStored db) : JobPagingLaw db state where
  accepted _ _ _ _ hlist := answer_accepted hlist
  last limit after hlimit hafter := by
    refine ⟨_, jobPage_eq h hlimit hafter, ?_⟩
    rw [Paging.page, Paging.cut_next_eq_none hlimit.1, Paging.cut]
    constructor
    · exact fun hle => List.take_of_length_le hle
    · intro htake
      rw [← htake, List.length_take]
      omega
  visited visits hlimits hstill := by
    obtain ⟨hsizes, hsame⟩ := @jobMoments_still db visits hstill
    obtain ⟨items, ended, hread, hwalk⟩ := @readJobs_eq_ok db state h visits hlimits
    have hrows : ∀ moment ∈ jobMoments db visits,
        jobRecords moment.db state = jobRecords db state :=
      fun moment hmoment => by rw [hsame moment hmoment]
    rw [hread, ← hwalk, Paging.walk_still jobRecords_ordered hrows
      fun moment hmoment => (jobMoments_limits hlimits moment hmoment).1, hsizes,
      Option.map_none, Paging.above_none]
    congr 3
    cases visits with
    | nil => simp [jobMoments]
    | cons visit visits => simp [jobMoments]
  interleaved visits hlimits := by
    obtain ⟨items, ended, hread, hwalk⟩ := @readJobs_eq_ok db state h visits hlimits
    obtain ⟨hordered, hfrom, hall⟩ := Paging.walk_changing (fun _ _ => jobRecords_ordered)
      (fun moment hmoment => (jobMoments_limits hlimits moment hmoment).1) hwalk
    have hplace : ∀ shown ∈ items, ∀ moment ∈ jobMoments db visits,
        ∀ record ∈ jobRecords moment.db state, shown.jobId = record.jobId →
          jobRank (jobMark state shown) = jobRank (jobMark state record) := by
      intro shown hshown moment hmoment record hrecord hid
      obtain ⟨-, moment', hmoment', hthere⟩ := hfrom shown hshown
      rw [jobRank, jobRank, jobMark, jobMark,
        submitted_once h hmoment' hmoment hthere hrecord hid, hid]
    have hon : ∀ record ∈ jobRecords db state, ended = true →
        (∀ moment ∈ jobMoments db visits, ∃ shown ∈ jobRecords moment.db state,
          shown.jobId = record.jobId) → ∃ shown ∈ items, shown.jobId = record.jobId := by
      intro record hrecord hend hpresent
      cases hvisits : jobMoments db visits with
      | nil =>
        rw [hvisits] at hwalk
        obtain ⟨-, rfl⟩ := Prod.mk.inj (Except.ok.inj hwalk)
        cases hend
      | cons first rest =>
        have hfirst : first ∈ jobMoments db visits := by simp [hvisits]
        obtain ⟨shown, hshown, hid⟩ := hpresent first hfirst
        obtain ⟨item, hitem, hrank⟩ := hall hend (jobRank (jobMark state shown)) (by simp) (by
          intro moment hmoment
          obtain ⟨other, hother, hsame⟩ := hpresent moment hmoment
          refine ⟨other, hother, ?_⟩
          rw [jobRank, jobRank, jobMark, jobMark, submitted_once h hmoment hfirst hother hshown
            (hsame.trans hid.symm), hsame.trans hid.symm])
        have hvalue := (Prod.mk.inj (toLex_inj.mp (OrderDual.toDual_inj.mp hrank))).2
        exact ⟨item, hitem, (congrArg JobId.mk hvalue).trans hid⟩
    refine ⟨items, ended, hread, hordered, ?_, fun hend record hrecord => hon record hrecord hend,
      fun hend hsubmits record hrecord => ?_⟩
    · refine List.pairwise_map.mpr ((List.pairwise_map.mp hordered).imp_of_mem ?_)
      intro a b ha hb hlt hid
      obtain ⟨-, moment, hmoment, hthere⟩ := hfrom b hb
      rw [hplace a ha moment hmoment b hthere hid] at hlt
      exact lt_irrefl _ hlt
    · -- the row of the job is the same at every page
      have hkept : ∀ moment ∈ jobMoments db visits, record ∈ jobRecords moment.db state := by
        intro moment hmoment
        obtain ⟨row, hrow, hstate, hread⟩ := mem_jobRecords.mp hrecord
        exact mem_jobRecords.mpr
          ⟨row, jobMoments_kept hsubmits moment hmoment _ row hrow, hstate, hread⟩
      obtain ⟨shown, hshown, hid⟩ := hon record hrecord hend
        fun moment hmoment => ⟨record, hkept moment hmoment, rfl⟩
      obtain ⟨-, moment, hmoment, hthere⟩ := hfrom shown hshown
      obtain ⟨row, hrow, -, hreadShown⟩ := mem_jobRecords.mp hthere
      obtain ⟨row', hrow', -, hreadRecord⟩ := mem_jobRecords.mp (hkept moment hmoment)
      rw [hid, hrow'] at hrow
      cases hrow
      rw [hid, hreadRecord] at hreadShown
      rwa [hreadShown]

end Law

end UseCases

end OnchainBacktest
