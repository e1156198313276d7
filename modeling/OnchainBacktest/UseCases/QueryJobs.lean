import OnchainBacktest.Lib.Paging
import OnchainBacktest.Jobs.QueueMoves

/-!
# Pages of jobs

The use case that lists the jobs of the queue, newest first, in a state or in any.  `jobPage` asks
the queue for one job more than it shows, checks that the queue kept to the state and the order, and
goes on from the last job it shows when another one follows.

A job keeps its place while the queue works (`QueueMove.submission_kept`), so the paging law holds
of every list (`jobPagingLaw`): the jobs that stay in the state of the list are read once, whatever
is submitted between two pages.
-/

set_option autoImplicit false

namespace OnchainBacktest

namespace UseCases

open Jobs
open Checked
open Paging (Page above walk)

/-! ## The query -/

/-- The place after which a page of jobs starts, with the state the list is filtered by. -/
structure JobListCursor where
  state : Option AttemptState
  submittedAtNs : Nat
  jobId : JobId
  deriving DecidableEq

/-- `ORDER BY submitted_at_ns DESC, job_id DESC`. -/
def newerFirst (left right : JobId × JobRow) : Prop :=
  right.2.submittedAtNs < left.2.submittedAtNs ∨
    right.2.submittedAtNs = left.2.submittedAtNs ∧ right.1.value ≤ left.1.value

instance decidableNewerFirst : DecidableRel newerFirst := by
  intro left right
  unfold newerFirst
  infer_instance

/-- The job comes strictly after the cursor. -/
def isAfterJob (cursor : JobListCursor) (row : JobId × JobRow) : Prop :=
  row.2.submittedAtNs < cursor.submittedAtNs ∨
    row.2.submittedAtNs = cursor.submittedAtNs ∧ row.1.value < cursor.jobId.value

instance decidableIsAfterJob (cursor : JobListCursor) (row : JobId × JobRow) :
    Decidable (isAfterJob cursor row) := by
  unfold isAfterJob
  infer_instance

/-- `list_jobs`. -/
def listJobs (db : JobDatabase) (state : Option AttemptState) (limit offset : Nat)
    (after : Option JobListCursor) : Except QueueFault (List JobRecord) := do
  refuseIf (¬ (1 ≤ limit ∧ limit ≤ 1001)) (.value "limit must be between 1 and 1001")
  refuseIf (10000 < offset) (.value "offset must be between 0 and 10000")
  refuseIf (∃ cursor ∈ after, offset ≠ 0 ∨ cursor.state ≠ state)
    (.value "job cursor must match the filter and cannot use offset")
  let selected := db.jobs.entries.filter fun row =>
    (∀ wanted ∈ state, row.2.state = wanted) ∧ ∀ cursor ∈ after, isAfterJob cursor row
  .ok ((((selected.insertionSort newerFirst).drop (if after = none then offset else 0)).take
    limit).map fun row => row.2.record row.1)

/-- The place of a job in the order of the lists: newest first, then by identity from the last. -/
def jobRank (cursor : JobListCursor) : (Nat ×ₗ String)ᵒᵈ :=
  OrderDual.toDual (toLex (cursor.submittedAtNs, cursor.jobId.value))

/-- The cursor that names a job of a list. -/
def jobMark (state : Option AttemptState) (record : JobRecord) : JobListCursor :=
  ⟨state, record.submittedAtNs, record.jobId⟩

/-- `_validate_job_page`. -/
def validateJobPage (records : List JobRecord) (state : Option AttemptState)
    (after : Option JobListCursor) : Except QueueFault Unit := do
  refuseIf (∃ wanted ∈ state, ∃ record ∈ records, record.state ≠ wanted)
    (.value "job query returned a record outside the state filter")
  refuseIf (∃ pair ∈ records.zip records.tail,
      toLex (pair.1.submittedAtNs, pair.1.jobId.value) ≤
        toLex (pair.2.submittedAtNs, pair.2.jobId.value))
    (.value "job query did not preserve canonical newest-first order")
  refuseIf (∃ cursor ∈ after, ∃ record ∈ records.head?,
      toLex (cursor.submittedAtNs, cursor.jobId.value) ≤
        toLex (record.submittedAtNs, record.jobId.value))
    (.value "job query did not resume strictly after the cursor")

/-- The constructor of a cursor, which keeps to what an integer column holds. -/
def checkedJobCursor (cursor : JobListCursor) : Except QueueFault JobListCursor := do
  refuseIf (2 ^ 63 - 1 < cursor.submittedAtNs)
    (.value "job cursor timestamp is outside the SQLite integer range")
  .ok cursor

/-- The cursor that names the last job shown, when another one follows. -/
def nextJobCursor (records : List JobRecord) (state : Option AttemptState) (limit : Nat) :
    Except QueueFault (Option JobListCursor) :=
  if limit < records.length then
    match (records.take limit).getLast? with
    | none => .ok none
    | some last => (checkedJobCursor (jobMark state last)).map some
  else .ok none

/-- `ListJobs.page`. -/
def jobPage (db : JobDatabase) (state : Option AttemptState) (limit offset : Nat)
    (after : Option JobListCursor) : Except QueueFault (Page JobRecord JobListCursor) := do
  refuseIf (¬ (1 ≤ limit ∧ limit ≤ 1000)) (.value "limit must be between 1 and 1000")
  refuseIf (10000 < offset) (.value "offset must be between 0 and 10000")
  refuseIf (∃ cursor ∈ after, offset ≠ 0 ∨ cursor.state ≠ state)
    (.value "job cursor must match the filter and cannot use offset")
  let records ← listJobs db state (limit + 1) offset after
  refuseIf (limit + 1 < records.length)
    (.value "job query returned more than its bounded lookahead")
  validateJobPage records state after
  let next ← nextJobCursor records state limit
  .ok ⟨records.take limit, next⟩

/-! ## The jobs of a list in order -/

/-- The rows of a list, in order. -/
def jobRows (db : JobDatabase) (state : Option AttemptState) : List (JobId × JobRow) :=
  (db.jobs.entries.filter fun row => ∀ wanted ∈ state, row.2.state = wanted).insertionSort
    newerFirst

/-- What the pages of a list show. -/
def jobRecords (db : JobDatabase) (state : Option AttemptState) : List JobRecord :=
  (jobRows db state).map fun row => row.2.record row.1

/-- The times of submission are ones the column takes. -/
def SubmissionsStored (db : JobDatabase) : Prop :=
  ∀ row ∈ db.jobs.entries, row.2.submittedAtNs ≤ 2 ^ 63 - 1

instance decidableSubmissionsStored (db : JobDatabase) : Decidable (SubmissionsStored db) := by
  unfold SubmissionsStored
  infer_instance

section Rows

variable {db : JobDatabase} {state : Option AttemptState} {after : Option JobListCursor}

/-- The rank of a row of the table. -/
def rowRank (row : JobId × JobRow) : (Nat ×ₗ String)ᵒᵈ :=
  OrderDual.toDual (toLex (row.2.submittedAtNs, row.1.value))

theorem newerFirst_iff (left right : JobId × JobRow) :
    newerFirst left right ↔ rowRank left ≤ rowRank right := by
  rw [newerFirst, rowRank, rowRank, OrderDual.toDual_le_toDual, Prod.Lex.toLex_le_toLex]

theorem isAfterJob_iff (cursor : JobListCursor) (row : JobId × JobRow) :
    isAfterJob cursor row ↔ jobRank cursor < rowRank row := by
  rw [isAfterJob, jobRank, rowRank, OrderDual.toDual_lt_toDual, Prod.Lex.toLex_lt_toLex]

theorem nodup_rowRank (db : JobDatabase) : (db.jobs.entries.map rowRank).Nodup := by
  refine List.pairwise_map.mpr ((List.pairwise_map.mp db.jobs.nodup).imp ?_)
  rintro ⟨⟨id⟩, row⟩ ⟨⟨id'⟩, row'⟩ hne hrank
  exact hne (congrArg JobId.mk (Prod.mk.inj (toLex_inj.mp (OrderDual.toDual_inj.mp hrank))).2)

theorem jobRows_ordered : ((jobRows db state).map rowRank).Pairwise (· < ·) :=
  Paging.sorted_strict newerFirst_iff
    ((nodup_rowRank db).sublist (List.filter_sublist.map rowRank))

theorem jobRecords_ordered :
    ((jobRecords db state).map fun record => jobRank (jobMark state record)).Pairwise (· < ·) := by
  rw [jobRecords, List.map_map]
  exact jobRows_ordered

theorem mem_jobRecords {record : JobRecord} : record ∈ jobRecords db state ↔
    ∃ row, db.jobs.get? record.jobId = some row ∧ (∀ wanted ∈ state, row.state = wanted) ∧
      row.record record.jobId = record := by
  rw [jobRecords, List.mem_map]
  constructor
  · rintro ⟨⟨jobId, row⟩, hrow, rfl⟩
    rw [jobRows, List.mem_insertionSort, List.mem_filter, decide_eq_true_iff] at hrow
    exact ⟨row, Dict.get?_eq_some_iff.mpr hrow.1, hrow.2, rfl⟩
  · rintro ⟨row, hget, hstate, hrecord⟩
    refine ⟨(record.jobId, row), ?_, hrecord⟩
    rw [jobRows, List.mem_insertionSort, List.mem_filter, decide_eq_true_iff]
    exact ⟨Dict.get?_eq_some_iff.mp hget, hstate⟩

theorem records_above : above (fun record => jobRank (jobMark state record)) (after.map jobRank)
    (jobRecords db state) =
      (above rowRank (after.map jobRank) (jobRows db state)).map fun row => row.2.record row.1 := by
  rw [above, jobRecords, List.filter_map]
  rfl

/-- What the queue answers is cut from the jobs of the list in order. -/
theorem listJobs_eq_ok {limit offset : Nat} {records : List JobRecord}
    (h : listJobs db state limit offset after = .ok records) :
    records = ((above (fun record => jobRank (jobMark state record)) (after.map jobRank)
      (jobRecords db state)).drop (if after = none then offset else 0)).take limit := by
  obtain ⟨-, h⟩ := check_bind_eq_ok.mp h
  obtain ⟨-, h⟩ := check_bind_eq_ok.mp h
  obtain ⟨-, h⟩ := check_bind_eq_ok.mp h
  have hcursor : ∀ row : JobId × JobRow, (∀ cursor ∈ after, isAfterJob cursor row) ↔
      ∀ cursor ∈ after.map jobRank, cursor < rowRank row := by
    intro row
    simp [isAfterJob_iff]
  have hselected : db.jobs.entries.filter (fun row =>
      (∀ wanted ∈ state, row.2.state = wanted) ∧ ∀ cursor ∈ after, isAfterJob cursor row) =
      (db.jobs.entries.filter fun row => ∀ wanted ∈ state, row.2.state = wanted).filter
        fun row => decide (∀ cursor ∈ after.map jobRank, cursor < rowRank row) := by
    rw [List.filter_filter]
    refine List.filter_congr fun row _ => ?_
    simp only [hcursor, Bool.decide_and, Bool.and_comm]
  rw [records_above, ← List.map_drop, ← List.map_take, ← Except.ok.inj h, hselected,
    Paging.insertionSort_filter newerFirst_iff
      ((nodup_rowRank db).sublist (List.filter_sublist.map rowRank))]
  rfl

theorem listJobs_eq {limit : Nat} (hlimit : 1 ≤ limit ∧ limit ≤ 1001)
    (hafter : ∀ cursor ∈ after, cursor.state = state) :
    listJobs db state limit 0 after =
      .ok ((above (fun record => jobRank (jobMark state record)) (after.map jobRank)
        (jobRecords db state)).take limit) := by
  have hscope : ¬ ∃ cursor ∈ after, 0 ≠ 0 ∨ cursor.state ≠ state := by
    rintro ⟨cursor, hcursor, hzero | hne⟩
    · exact hzero rfl
    · exact hne (hafter cursor hcursor)
  obtain ⟨records, hrecords⟩ : ∃ records, listJobs db state limit 0 after = .ok records := by
    rw [listJobs, refuseIf_of_not (not_not.mpr hlimit), refuseIf_of_not (by omega),
      refuseIf_of_not hscope]
    exact ⟨_, rfl⟩
  rw [hrecords, listJobs_eq_ok hrecords, ite_self, List.drop_zero]

/-! ## A page -/

theorem rank_lt_iff {a b : JobRecord} : jobRank (jobMark state a) < jobRank (jobMark state b) ↔
    ¬ toLex (a.submittedAtNs, a.jobId.value) ≤ toLex (b.submittedAtNs, b.jobId.value) := by
  rw [jobRank, jobRank, OrderDual.toDual_lt_toDual, not_le]
  rfl

/-- **The check of a page** accepts jobs of the list in order. -/
theorem validateJobPage_eq_ok (db : JobDatabase) {records : List JobRecord}
    (hordered : (records.map fun record => jobRank (jobMark state record)).Pairwise (· < ·))
    (hrecords : ∀ record ∈ records, record ∈ jobRecords db state ∧
      ∀ cursor ∈ after, jobRank cursor < jobRank (jobMark state record)) :
    validateJobPage records state after = .ok () := by
  refine check_bind_eq_ok.mpr ⟨refuseIf_eq_ok.mpr ?_, check_bind_eq_ok.mpr
    ⟨refuseIf_eq_ok.mpr ?_, refuseIf_eq_ok.mpr ?_⟩⟩
  · rintro ⟨wanted, hwanted, record, hrecord, hne⟩
    obtain ⟨row, -, hstate, hrow⟩ := mem_jobRecords.mp (hrecords record hrecord).1
    rw [← hrow] at hne
    exact hne (hstate wanted hwanted)
  · clear hrecords
    induction records with
    | nil => simp
    | cons record records ih =>
      rw [List.map_cons, List.pairwise_cons] at hordered
      cases records with
      | nil => simp
      | cons next records =>
        rintro ⟨pair, hpair, hle⟩
        rw [List.tail_cons, List.zip_cons_cons, List.mem_cons] at hpair
        rcases hpair with rfl | hpair
        · exact rank_lt_iff.mp (hordered.1 _ (by simp)) hle
        · exact ih hordered.2 ⟨pair, hpair, hle⟩
  · rintro ⟨cursor, hcursor, record, hrecord, hle⟩
    have hlt := (hrecords record (List.mem_of_mem_head? hrecord)).2 cursor hcursor
    rw [jobRank, jobRank, OrderDual.toDual_lt_toDual] at hlt
    exact absurd hle (not_le.mpr hlt)

theorem answer_accepted {limit offset : Nat} {records : List JobRecord}
    (h : listJobs db state limit offset after = .ok records) :
    validateJobPage records state after = .ok () := by
  have hrecords := listJobs_eq_ok h
  have hsublist : records.Sublist (above (fun record => jobRank (jobMark state record))
      (after.map jobRank) (jobRecords db state)) := by
    rw [hrecords]
    exact (List.take_sublist _ _).trans (List.drop_sublist _ _)
  refine validateJobPage_eq_ok db
    ((List.pairwise_map.mpr (Paging.pairwise_above jobRecords_ordered)).sublist
      (hsublist.map _)) fun record hrecord => ?_
  obtain ⟨hmem, habove⟩ := Paging.mem_above.mp (hsublist.subset hrecord)
  exact ⟨hmem, fun cursor hcursor => habove _ (Option.mem_map_of_mem jobRank hcursor)⟩

/-- **A page** shows the first jobs of the list after the cursor. -/
theorem jobPage_eq (h : SubmissionsStored db) {limit : Nat} (hlimit : 1 ≤ limit ∧ limit ≤ 1000)
    (hafter : ∀ cursor ∈ after, cursor.state = state) :
    jobPage db state limit 0 after =
      .ok (Paging.page (jobMark state) jobRank (jobRecords db state) after limit) := by
  have hscope : ¬ ∃ cursor ∈ after, 0 ≠ 0 ∨ cursor.state ≠ state := by
    rintro ⟨cursor, hcursor, hzero | hne⟩
    · exact hzero rfl
    · exact hne (hafter cursor hcursor)
  have hlist := @listJobs_eq db state after (limit + 1) (by omega) hafter
  set kept := above (fun record => jobRank (jobMark state record)) (after.map jobRank)
    (jobRecords db state) with hkept
  have hlength : ¬ limit + 1 < (kept.take (limit + 1)).length := by
    rw [List.length_take]
    omega
  have hnext : nextJobCursor (kept.take (limit + 1)) state limit =
      .ok (Paging.cut (jobMark state) limit (kept.take (limit + 1))).next := by
    rw [nextJobCursor, Paging.cut]
    by_cases hmore : limit < (kept.take (limit + 1)).length
    · rw [if_pos hmore, if_pos hmore]
      cases hlast : ((kept.take (limit + 1)).take limit).getLast? with
      | none => rfl
      | some last =>
        have hmem := List.mem_of_mem_take (List.mem_of_mem_take (List.mem_of_getLast? hlast))
        obtain ⟨row, hrow, -, hrecord⟩ := mem_jobRecords.mp (Paging.mem_above.mp hmem).1
        have hfits : row.submittedAtNs ≤ 2 ^ 63 - 1 := h _ (Dict.get?_eq_some_iff.mp hrow)
        have htime : last.submittedAtNs = row.submittedAtNs := by rw [← hrecord]; rfl
        dsimp only
        rw [checkedJobCursor, refuseIf_of_not (by simp only [jobMark]; omega), ok_bind]
        rfl
    · rw [if_neg hmore, if_neg hmore]
  rw [jobPage, refuseIf_of_not (not_not.mpr hlimit), refuseIf_of_not (by omega),
    refuseIf_of_not hscope, hlist, ok_bind, ok_bind, ok_bind, ok_bind, refuseIf_of_not hlength,
    ok_bind, answer_accepted hlist, ok_bind, hnext, ok_bind, Paging.cut_take, List.take_take,
    Nat.min_eq_left (Nat.le_succ limit)]
  rfl

end Rows

end UseCases

end OnchainBacktest
