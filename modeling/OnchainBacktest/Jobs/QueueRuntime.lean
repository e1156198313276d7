import OnchainBacktest.Jobs.QueueSafety

/-!
# Attempts that run and their processes

An attempt is to be running exactly when the table of processes has a row for it: the list of the
attempts in flight, which a starting supervisor reads, refuses any other state of the two tables.

Registering a process writes both rows at once and every end of an attempt removes its process, so
the rows agree as long as nobody says of an attempt that it runs without registering its process.
The public transition lets its caller do just that (`transition_breaks_runtime`), and the tables
agree along a run exactly when no such transition is accepted in it (`runtime_agrees_iff`).
-/

set_option autoImplicit false

namespace OnchainBacktest

namespace Jobs

open Checked

/-! ## Processes of running attempts -/

/-- Every running attempt has its process. -/
def Backed (db : JobDatabase) : Prop :=
  ∀ a r, db.jobAttempts.get? a = some r → r.state = .running →
    ∃ runtime, db.attemptRuntime.get? a = some runtime

theorem backed_empty : Backed JobDatabase.empty := fun _ _ h => by cases h

/-- The move of one attempt keeps the processes of the others. -/
theorem Backed.set {db : JobDatabase} (h : Backed db) {db' : JobDatabase} {b : AttemptId}
    {new : AttemptRow} (hattempts : db'.jobAttempts = db.jobAttempts.set b new)
    (hruntime : ∀ a, a ≠ b → db'.attemptRuntime.get? a = db.attemptRuntime.get? a)
    (hnew : new.state = .running → ∃ runtime, db'.attemptRuntime.get? b = some runtime) :
    Backed db' := by
  intro a r hr hs
  by_cases ha : a = b
  · subst ha
    rw [hattempts, Dict.get?_set_self] at hr
    obtain rfl := Option.some.inj hr
    exact hnew hs
  · rw [hattempts, Dict.get?_set_of_ne _ _ ha] at hr
    rw [hruntime a ha]
    exact h a r hr hs

/-- **Every move but a bare start keeps running attempts and their processes together.** -/
theorem QueueMove.backed {db db' : JobDatabase} {kind : MoveKind} (hm : QueueMove db kind db')
    (hkind : ∀ a, kind ≠ .unbacked a) (h : Backed db) : Backed db' := by
  cases hm with
  | logged => exact h
  | renewed attemptId old new hknown =>
    intro a r hr hs
    show ∃ runtime, (db.attemptRuntime.set attemptId new).get? a = some runtime
    rw [Dict.get?_set]
    split
    · exact ⟨new, rfl⟩
    · exact h a r hr hs
  | submitted => exact h
  | withdrawn => exact h
  | asked => exact h
  | retried => exact h
  | claimed jobId row attemptId attempt now events hknown hqueued hfresh hof hstarting =>
    refine h.set rfl (fun _ _ => rfl) fun hs => ?_
    exact absurd (hstarting.symm.trans hs) (by simp)
  | registered attemptId attempt job runtime =>
    refine h.set rfl (fun a ha => db.attemptRuntime.get?_set_of_ne runtime ha) fun _ => ?_
    exact ⟨runtime, Dict.get?_set_self _ _ _⟩
  | presumed attemptId => exact absurd rfl (hkind attemptId)
  | succeeded attemptId =>
    exact h.set rfl (fun a ha => db.attemptRuntime.get?_erase_of_ne ha) fun hs => by cases hs
  | ended attemptId attempt job newState result failures now events hflight hu hterminal =>
    refine h.set rfl (fun a ha => db.attemptRuntime.get?_erase_of_ne ha) fun hs => ?_
    have hs' : newState = .running := hs
    rcases hterminal with hn | hn | hn <;> rw [hn] at hs' <;> cases hs'
  | requeued attemptId attempt job newState failure retry now events hflight hu hterminal =>
    refine h.set rfl (fun a ha => db.attemptRuntime.get?_erase_of_ne ha) fun hs => ?_
    have hs' : newState = .running := hs
    rcases hterminal with hn | hn <;> rw [hn] at hs' <;> cases hs'

/-! ## The list of the attempts in flight -/

theorem mem_unfinishedRows {db : JobDatabase} {row : AttemptId × AttemptRow × JobRow} :
    row ∈ db.unfinishedRows ↔ db.jobAttempts.get? row.1 = some row.2.1 ∧
      db.jobs.get? row.2.1.jobId = some row.2.2 ∧ row.2.1.state.isUnfinished = true ∧
      row.2.2.currentAttemptId = some row.1 := by
  obtain ⟨a, r, job⟩ := row
  rw [JobDatabase.unfinishedRows, List.mem_insertionSort, List.mem_filterMap]
  constructor
  · rintro ⟨⟨a', r'⟩, hmem, h⟩
    dsimp only at h
    split at h
    · cases h
    · rename_i job' hjob
      split at h
      · rename_i hguard
        cases h
        exact ⟨Dict.get?_eq_some_iff.mpr hmem, hjob, hguard⟩
      · cases h
  · rintro ⟨hr, hjob, hguard⟩
    refine ⟨(a, r), Dict.get?_eq_some_iff.mp hr, ?_⟩
    dsimp only at hjob hguard ⊢
    rw [hjob]
    exact if_pos hguard

/-- A selection that keeps the keys keeps them apart. -/
theorem nodup_filterMap_fst {κ ν ω : Type} {f : κ × ν → Option (κ × ω)} {l : List (κ × ν)}
    (hf : ∀ e e', f e = some e' → e'.1 = e.1) (h : (l.map Prod.fst).Nodup) :
    ((l.filterMap f).map Prod.fst).Nodup := by
  refine h.sublist ?_
  clear h
  induction l with
  | nil => exact List.Sublist.slnil
  | cons e rest ih =>
    cases he : f e with
    | none =>
      rw [List.filterMap_cons_none he]
      exact ih.cons _
    | some e' =>
      rw [List.filterMap_cons_some he, List.map_cons, List.map_cons, hf e e' he]
      exact ih.cons_cons _

theorem nodup_unfinishedRows (db : JobDatabase) : (db.unfinishedRows.map Prod.fst).Nodup := by
  refine (((List.perm_insertionSort _ _).map Prod.fst).nodup_iff).mpr ?_
  refine nodup_filterMap_fst ?_ db.jobAttempts.nodup
  intro e e' he
  split at he
  · cases he
  · split at he <;> cases he
    rfl

theorem attemptId_of_unfinishedRecord {db : JobDatabase} {a : AttemptId} {r : AttemptRow}
    {job : JobRow} {record : SupervisorAttempt} (h : db.unfinishedRecord a r job = .ok record) :
    record.attempt.attemptId = a := by
  rw [JobDatabase.unfinishedRecord] at h
  obtain ⟨-, h⟩ := check_bind_eq_ok.mp h
  obtain ⟨-, h⟩ := check_bind_eq_ok.mp h
  obtain ⟨-, h⟩ := check_bind_eq_ok.mp h
  rw [← Except.ok.inj h]

/-- The record of a sound attempt in flight, when its process is there just if it runs. -/
theorem exists_unfinishedRecord {db : JobDatabase} (hsound : QueueSound db) (hbacked : Backed db)
    {row : AttemptId × AttemptRow × JobRow} (hrow : row ∈ db.unfinishedRows) :
    ∃ record, db.unfinishedRecord row.1 row.2.1 row.2.2 = .ok record := by
  obtain ⟨a, r, job⟩ := row
  obtain ⟨hr, hjob, hu, hcurrent⟩ := mem_unfinishedRows.mp hrow
  dsimp only at hr hjob hu hcurrent ⊢
  obtain ⟨r', hr', -, hstate, hversion⟩ := (hsound.job _ _ hjob).current a hcurrent
  obtain rfl := Option.some.inj (hr.symm.trans hr')
  have hruntime := (hsound.attempt a r hr).runtime
  have hguard : requireCurrentAttempt a r job r.stateVersion r.state "list unfinished attempts"
      = .ok () :=
    requireCurrentAttempt_eq_ok.mpr ⟨hcurrent, rfl, hversion.symm, hstate, rfl⟩
  have hprocess : r.state = .running ↔ (db.attemptRuntime.get? a).isSome := by
    rw [Option.isSome_iff_exists]
    constructor
    · exact hbacked a r hr
    · rintro ⟨runtime, h⟩
      exact (hruntime runtime h).1
  have howner : ¬ ∃ rt ∈ db.attemptRuntime.get? a,
      rt.supervisorInstanceId ≠ r.supervisorInstanceId := by
    rintro ⟨rt, hrt, hne⟩
    exact hne (hruntime rt hrt).2
  rw [JobDatabase.unfinishedRecord, hguard, ok_bind]
  dsimp only
  rw [refuseIf_of_not (not_not.mpr hprocess), ok_bind, refuseIf_of_not howner, ok_bind]
  exact ⟨_, rfl⟩

/-- **The list of the attempts in flight is read, and has each of them once.** -/
theorem listUnfinishedAttempts_ok {db : JobDatabase} (hsound : QueueSound db)
    (hbacked : Backed db) : ∃ records, db.listUnfinishedAttempts = .ok records ∧
      (records.map fun record => record.attempt.attemptId).Nodup ∧
      ∀ a, a ∈ records.map (fun record => record.attempt.attemptId) ↔
        ∃ r, db.jobAttempts.get? a = some r ∧ r.state.isUnfinished = true := by
  obtain ⟨records, hrecords⟩ :=
    exists_mapM_ok fun row hrow => exists_unfinishedRecord hsound hbacked hrow
  have hids : records.map (fun record => record.attempt.attemptId)
      = db.unfinishedRows.map Prod.fst := by
    have hall := mapM_eq_ok hrecords
    clear hrecords
    generalize db.unfinishedRows = rows at hall
    induction hall with
    | nil => rfl
    | cons hrecord _ ih =>
      rw [List.map_cons, List.map_cons, ih, attemptId_of_unfinishedRecord hrecord]
  refine ⟨records, hrecords, ?_, fun a => ?_⟩
  · rw [hids]
    exact nodup_unfinishedRows db
  · rw [hids, List.mem_map]
    constructor
    · rintro ⟨row, hrow, rfl⟩
      obtain ⟨hr, -, hu, -⟩ := mem_unfinishedRows.mp hrow
      exact ⟨row.2.1, hr, hu⟩
    · rintro ⟨r, hr, hu⟩
      obtain ⟨job, hjob⟩ := (hsound.attempt a r hr).home
      exact ⟨(a, r, job), mem_unfinishedRows.mpr ⟨hr, hjob, hu,
        hsound.current_of_unfinished hr hjob hu⟩, rfl⟩

/-! ## Along a run -/

/-- Running attempts are those with a process, and the list of the attempts in flight is read and
has each of them once. -/
structure RuntimeAgrees (db : JobDatabase) : Prop where
  running : ∀ a, (∃ r, db.jobAttempts.get? a = some r ∧ r.state = .running) ↔
    ∃ runtime, db.attemptRuntime.get? a = some runtime
  listed : ∃ records, db.listUnfinishedAttempts = .ok records ∧
    (records.map fun record => record.attempt.attemptId).Nodup ∧
    ∀ a, a ∈ records.map (fun record => record.attempt.attemptId) ↔
      ∃ r, db.jobAttempts.get? a = some r ∧ r.state.isUnfinished = true

/-- Every transition to running is refused in a run. -/
def NoBareStart (calls : List QueueCall) : Prop :=
  ∀ before attemptId version result now after,
    calls = before ++ .transition attemptId version .running result now :: after →
    ∃ fault, (QueueCall.transition attemptId version .running result now).run
      (JobDatabase.empty.applyAll before) = .error fault

theorem runtimeAgrees_of_backed {db : JobDatabase} (hsound : QueueSound db)
    (hbacked : Backed db) : RuntimeAgrees db where
  running := by
    intro a
    constructor
    · rintro ⟨r, hr, hs⟩
      exact hbacked a r hr hs
    · rintro ⟨runtime, hruntime⟩
      cases hr : db.jobAttempts.get? a with
      | none =>
        rw [(hsound.unknown a hr).1] at hruntime
        cases hruntime
      | some r => exact ⟨r, rfl, ((hsound.attempt a r hr).runtime runtime hruntime).1⟩
  listed := listUnfinishedAttempts_ok hsound hbacked

/-- **An accepted transition to running leaves an attempt that runs without a process**, and the
list of the attempts in flight is refused. -/
theorem transition_breaks_runtime {db db' : JobDatabase} {attemptId : AttemptId} {version : Nat}
    {result : Option ContentDigest} {now : Nat} (hsound : QueueSound db)
    (h : (QueueCall.transition attemptId version .running result now).run db = .ok db') :
    ¬ RuntimeAgrees db' := by
  intro hagrees
  have hm := QueueCall.run_move h
  rw [QueueCall.kind, if_pos rfl] at hm
  cases hm with
  | presumed _ attempt job now events hflight hstarting =>
    have hrun : ∃ r, (db.jobAttempts.set attemptId (attempt.moved .running none now)).get? attemptId
        = some r ∧ r.state = .running := ⟨_, Dict.get?_set_self _ _ _, rfl⟩
    obtain ⟨runtime, hruntime⟩ := (hagrees.running attemptId).mp hrun
    have hold := ((hsound.attempt _ _ hflight.attempt_eq).runtime runtime hruntime).1
    exact absurd (hstarting.symm.trans hold) (by simp)

theorem eq_transition_of_kind {call : QueueCall} {a : AttemptId} (h : call.kind = .unbacked a) :
    ∃ version result now, call = .transition a version .running result now := by
  cases call with
  | transition attemptId version newState result now =>
    rw [QueueCall.kind] at h
    split at h
    · rename_i hs
      subst hs
      cases h
      exact ⟨version, result, now, rfl⟩
    · cases h
  | _ => cases h

theorem applyAll_append (db : JobDatabase) (calls : List QueueCall) (call : QueueCall) :
    db.applyAll (calls ++ [call]) = (db.applyAll calls).apply call := by
  rw [JobDatabase.applyAll, JobDatabase.applyAll, List.foldl_append]
  rfl

/-- A run in which no bare start is accepted keeps running attempts and processes together. -/
theorem backed_applyAll {calls : List QueueCall} (hno : NoBareStart calls) :
    Backed (JobDatabase.empty.applyAll calls) := by
  induction calls using List.reverseRecOn with
  | nil => exact backed_empty
  | append_singleton calls call ih =>
    have hbefore : NoBareStart calls := by
      rintro before a version result now after rfl
      exact hno before a version result now (after ++ [call]) (by simp)
    have hbacked := ih hbefore
    rw [applyAll_append]
    by_cases hkind : ∃ a, call.kind = .unbacked a
    · obtain ⟨a, hkind⟩ := hkind
      obtain ⟨version, result, now, rfl⟩ := eq_transition_of_kind hkind
      obtain ⟨fault, hfault⟩ := hno calls a version result now [] rfl
      rwa [apply_of_error hfault]
    · rcases apply_move (JobDatabase.empty.applyAll calls) call with hm | hm
      · exact hm.backed (fun a ha => hkind ⟨a, ha⟩) hbacked
      · rwa [hm]

/-- **The two tables agree all along a run exactly when no bare start is accepted in it.** -/
theorem runtime_agrees_iff (calls : List QueueCall) :
    (∀ before, before <+: calls → RuntimeAgrees (JobDatabase.empty.applyAll before)) ↔
      NoBareStart calls := by
  constructor
  · rintro h before a version result now after rfl
    cases hrun : (QueueCall.transition a version .running result now).run
        (JobDatabase.empty.applyAll before) with
    | error fault => exact ⟨fault, rfl⟩
    | ok db =>
      have hagrees := h (before ++ [.transition a version .running result now]) ⟨after, by simp⟩
      rw [applyAll_append, apply_of_ok hrun] at hagrees
      exact absurd hagrees (transition_breaks_runtime (reachable_applyAll before).sound hrun)
  · rintro hno before ⟨rest, rfl⟩
    have hbefore : NoBareStart before := by
      rintro pre a version result now after rfl
      exact hno pre a version result now (after ++ rest) (by simp)
    exact runtimeAgrees_of_backed (reachable_applyAll before).sound (backed_applyAll hbefore)

/-- The sample job is claimed and said to run. -/
def sampleBareStart : List QueueCall :=
  [.submit ⟨"job"⟩ 0 sampleSpec "key",
    .claimNextForTypes ⟨"first"⟩ "supervisor" [.runBacktest] 1,
    .transition ⟨"first"⟩ 1 .running none 2]

/-- After a bare start the list of the attempts in flight is refused as corrupt. -/
theorem bare_start_corrupts :
    (match (JobDatabase.empty.applyAll sampleBareStart).listUnfinishedAttempts with
      | .ok _ => none
      | .error fault => some fault)
      = some (.queueCorruption "unfinished attempt process metadata is inconsistent") ∧
    ¬ ∀ calls, RuntimeAgrees (JobDatabase.empty.applyAll calls) := by
  refine ⟨by decide, fun hall => ?_⟩
  have hrun : ∃ r, (JobDatabase.empty.applyAll sampleBareStart).jobAttempts.get? ⟨"first"⟩ = some r
      ∧ r.state = .running := ⟨_, rfl, rfl⟩
  obtain ⟨runtime, hruntime⟩ := ((hall sampleBareStart).running _).mp hrun
  have hnone : (JobDatabase.empty.applyAll sampleBareStart).attemptRuntime.get? ⟨"first"⟩ = none :=
    rfl
  rw [hnone] at hruntime
  cases hruntime

end Jobs

end OnchainBacktest
