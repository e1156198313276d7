import Mathlib.Logic.Relation
import OnchainBacktest.Jobs.JobQueue
import OnchainBacktest.Jobs.ProgressPipe

/-!
# Persisted progress

The supervisor keeps the last progress event of an attempt until it is due and persists it with the
events it coalesced.  Whatever the child sends and whatever else happens to the queue in between,
the frames of the attempt are in sequence and few, what is pending comes after all of them, and an
observation that is forced leaves nothing unreported (`progress_persisted`).
-/

set_option autoImplicit false

namespace OnchainBacktest

namespace Jobs

open Checked Relation

/-! ## The supervisor -/

/-- The fields of a process status that are about progress. -/
structure ProcessStatus where
  privateRssBytes : Option Nat
  totalRssBytes : Option Nat
  majorPageFaults : Option Nat
  temporaryDiskBytes : Option Nat
  progressEvents : List ProgressEvent
  droppedProgressFrames : Nat

structure ProgressRuntime where
  lastSequence : Int
  lastPersistedAtNs : Option Nat
  pending : Option ProgressEvent
  coalescedEvents : Nat
  droppedTransportFrames : Nat
  privateRssBytes : Option Nat
  totalRssBytes : Option Nat
  majorPageFaults : Option Nat
  temporaryDiskBytes : Option Nat

def ProgressRuntime.empty : ProgressRuntime := ⟨0, none, none, 0, 0, none, none, none, none⟩

def latestCounter (previous current : Option Nat) : Option Nat := current <|> previous

def boundedProgressCount (current increment : Nat) : Nat := min (2 ^ 31 - 1) (current + increment)

/-- The counters of a status. -/
def ProgressRuntime.sample (runtime : ProgressRuntime) (status : ProcessStatus) :
    ProgressRuntime :=
  { runtime with
    privateRssBytes := latestCounter runtime.privateRssBytes status.privateRssBytes
    totalRssBytes := latestCounter runtime.totalRssBytes status.totalRssBytes
    majorPageFaults := latestCounter runtime.majorPageFaults status.majorPageFaults
    temporaryDiskBytes := latestCounter runtime.temporaryDiskBytes status.temporaryDiskBytes
    droppedTransportFrames :=
      boundedProgressCount runtime.droppedTransportFrames status.droppedProgressFrames }

/-- One event of a status. -/
def ProgressRuntime.take (attemptId : AttemptId) (runtime : ProgressRuntime)
    (event : ProgressEvent) : ProgressRuntime :=
  if event.attemptId ≠ attemptId ∨ event.sequence ≤ runtime.lastSequence then
    { runtime with
      droppedTransportFrames := boundedProgressCount runtime.droppedTransportFrames 1 }
  else
    { runtime with
      lastSequence := event.sequence
      pending := some event
      coalescedEvents := boundedProgressCount runtime.coalescedEvents 1 }

/-- The details of a frame.  Its sequence, units and counts fit; the samples need not. -/
def ProgressRuntime.details (runtime : ProgressRuntime) (pending : ProgressEvent) :
    Except QueueFault JobProgressDetails := do
  [(runtime.privateRssBytes, "private_rss_bytes"), (runtime.totalRssBytes, "total_rss_bytes"),
    (runtime.majorPageFaults, "major_page_faults"),
    (runtime.temporaryDiskBytes, "temporary_disk_bytes")].forM fun counter =>
      refuseIf (∃ value ∈ counter.1, 2 ^ 63 - 1 < value)
        (.value (counter.2 ++ " exceeds the SQLite integer range"))
  refuseIf (∃ own ∈ runtime.privateRssBytes, ∃ total ∈ runtime.totalRssBytes, total < own)
    (.value "private RSS cannot exceed total RSS")
  .ok { sequence := pending.sequence.toNat
        level := pending.level.value
        stage := pending.stage.value
        completedUnits := pending.completedUnits.map Int.toNat
        totalUnits := pending.totalUnits.map Int.toNat
        coalescedEvents := runtime.coalescedEvents
        droppedTransportFrames := runtime.droppedTransportFrames
        privateRssBytes := runtime.privateRssBytes
        totalRssBytes := runtime.totalRssBytes
        majorPageFaults := runtime.majorPageFaults
        temporaryDiskBytes := runtime.temporaryDiskBytes }

/-- The attempt that is watched, and by whom. -/
structure ProgressWatch where
  attemptId : AttemptId
  supervisorInstanceId : String
  progressIntervalNs : Nat

variable (watch : ProgressWatch)

/-- Observe the status of a process: the runtime afterwards, which a fault leaves as it is by then,
and the queue. -/
def observeProgress (stateVersion : Nat) (status : ProcessStatus) (nowNs : Nat) (force : Bool)
    (runtime : ProgressRuntime) (db : JobDatabase) :
    ProgressRuntime × Except QueueFault JobDatabase :=
  let runtime := status.progressEvents.foldl (·.take watch.attemptId) (runtime.sample status)
  match runtime.pending with
  | none => (runtime, .ok db)
  | some pending =>
    if (∃ last ∈ runtime.lastPersistedAtNs, nowNs < last + watch.progressIntervalNs) ∧
        force = false then (runtime, .ok db)
    else
      match runtime.details pending >>= fun details =>
          db.recordProgress watch.attemptId stateVersion details watch.supervisorInstanceId
            nowNs with
      | .error fault => (runtime, .error fault)
      | .ok db =>
        ({ runtime with
            lastPersistedAtNs := some nowNs
            pending := none
            coalescedEvents := 0
            droppedTransportFrames := 0 }, .ok db)

/-! ## The frames of an attempt -/

/-- The sequence of a progress frame of an attempt. -/
def frameSequence (attemptId : AttemptId) (e : EventRow) : Option Nat :=
  if e.attemptId = some attemptId then e.details.map (·.sequence) else none

/-- The sequences of the frames the queue keeps. -/
def JobDatabase.frames (db : JobDatabase) (attemptId : AttemptId) : List Nat :=
  db.jobEvents.filterMap (frameSequence attemptId)

/-- Trimming drops the oldest frames. -/
theorem frames_trimProgress (attemptId : AttemptId) (events : List EventRow) :
    (trimProgress attemptId events).filterMap (frameSequence attemptId)
      = (events.filterMap (frameSequence attemptId)).drop
        ((events.filterMap (frameSequence attemptId)).length - 256) := by
  have hframe : ∀ e : EventRow, (e.attemptId == some attemptId && e.details.isSome)
      = (frameSequence attemptId e).isSome := by
    intro e
    by_cases he : e.attemptId = some attemptId <;> simp [frameSequence, he]
  have hcount : (events.filter fun e => e.attemptId == some attemptId && e.details.isSome).length
      = (events.filterMap (frameSequence attemptId)).length := by
    simp only [hframe, List.length_filterMap_eq_countP, List.countP_eq_length_filter]
  rw [trimProgress, hcount]
  simp only [hframe]
  rw [show MAX_PROGRESS_EVENTS_PER_ATTEMPT = 256 from rfl]
  -- the fold drops as many frames as it is told to
  suffices h : ∀ (n : Nat) (kept : List EventRow),
      (events.foldl (fun (acc : Nat × List EventRow) e =>
        if (frameSequence attemptId e).isSome = true ∧ 0 < acc.1 then (acc.1 - 1, acc.2)
        else (acc.1, acc.2 ++ [e])) (n, kept)).2.filterMap (frameSequence attemptId)
      = kept.filterMap (frameSequence attemptId)
        ++ (events.filterMap (frameSequence attemptId)).drop n by
    exact (h _ []).trans (List.nil_append _)
  clear hcount
  induction events with
  | nil => simp
  | cons e events ih =>
    intro n kept
    rw [List.foldl_cons]
    cases he : frameSequence attemptId e with
    | none => simp [he, ih]
    | some sequence =>
      cases n with
      | zero => simp [he, ih]
      | succ n => simpa [he] using ih n kept

/-- **A frame that is recorded is later than all there are, and the newest are kept.** -/
theorem recordProgress_frames {db db' : JobDatabase} {attemptId : AttemptId} {version now : Nat}
    {details : JobProgressDetails} {supervisor : String}
    (h : db.recordProgress attemptId version details supervisor now = .ok db') :
    db'.frames attemptId = (db.frames attemptId ++ [details.sequence]).drop
      ((db.frames attemptId).length + 1 - 256) := by
  rw [JobDatabase.recordProgress] at h
  obtain ⟨-, h⟩ := check_bind_eq_ok.mp h
  obtain ⟨⟨attempt, job⟩, -, h⟩ := bind_eq_ok.mp h
  dsimp only at h
  split at h
  · cases h
  · obtain ⟨-, h⟩ := check_bind_eq_ok.mp h
    obtain ⟨-, h⟩ := check_bind_eq_ok.mp h
    obtain ⟨-, h⟩ := check_bind_eq_ok.mp h
    obtain rfl := Except.ok.inj h
    refine (frames_trimProgress attemptId _).trans ?_
    simp [JobDatabase.appendJobEvent, JobDatabase.frames, frameSequence, List.filterMap_append]

/-! ## Runs -/

/-- What can happen to an attempt's progress: an observation, whatever comes of it, or anything
that records no progress of the attempt. -/
inductive ProgressStep : ProgressRuntime × JobDatabase → ProgressRuntime × JobDatabase → Prop
  | observed (runtime : ProgressRuntime) (db : JobDatabase) (stateVersion : Nat)
      (status : ProcessStatus) (nowNs : Nat) (force : Bool) :
    ProgressStep (runtime, db)
      ((observeProgress watch stateVersion status nowNs force runtime db).1,
        ((observeProgress watch stateVersion status nowNs force runtime db).2.toOption).getD db)
  | elsewhere (runtime : ProgressRuntime) {db db' : JobDatabase}
      (same : db'.frames watch.attemptId = db.frames watch.attemptId) :
    ProgressStep (runtime, db) (runtime, db')

/-- What the supervisor remembers agrees with the frames. -/
structure InSequence (runtime : ProgressRuntime) (frames : List Nat) : Prop where
  rising : frames.Pairwise (· < ·)
  few : frames.length ≤ 256
  nonneg : 0 ≤ runtime.lastSequence
  pending : ∀ event ∈ runtime.pending, event.sequence = runtime.lastSequence ∧
    ∀ frame ∈ frames, (frame : Int) < event.sequence
  reported : runtime.pending = none →
    (frames.getLast?.map fun frame => (frame : Int)).getD 0 = runtime.lastSequence

variable {runtime : ProgressRuntime} {frames : List Nat}

theorem InSequence.le_last (h : InSequence runtime frames) :
    ∀ frame ∈ frames, (frame : Int) ≤ runtime.lastSequence := by
  intro frame hframe
  cases hp : runtime.pending with
  | some event =>
    obtain ⟨hlast, hlater⟩ := h.pending event hp
    exact hlast ▸ (hlater frame hframe).le
  | none =>
    have hne : frames ≠ [] := List.ne_nil_of_mem hframe
    have hlast := h.reported hp
    rw [List.getLast?_eq_some_getLast hne] at hlast
    have hle := (h.rising.imp Nat.le_of_lt).rel_getLast hframe
    exact (Int.ofNat_le.mpr hle).trans_eq hlast

theorem InSequence.take (h : InSequence runtime frames) (attemptId : AttemptId)
    (event : ProgressEvent) : InSequence (runtime.take attemptId event) frames := by
  rw [ProgressRuntime.take]
  split_ifs with hskip
  · exact ⟨h.rising, h.few, h.nonneg, h.pending, h.reported⟩
  · rw [not_or, not_le] at hskip
    refine ⟨h.rising, h.few, h.nonneg.trans hskip.2.le, ?_, fun hnone => by cases hnone⟩
    rintro other ⟨⟩
    exact ⟨rfl, fun frame hframe => (h.le_last frame hframe).trans_lt hskip.2⟩

theorem InSequence.takes (h : InSequence runtime frames) (attemptId : AttemptId)
    (status : ProcessStatus) :
    InSequence (status.progressEvents.foldl (·.take attemptId) (runtime.sample status))
      frames := by
  have hsample : InSequence (runtime.sample status) frames :=
    ⟨h.rising, h.few, h.nonneg, h.pending, h.reported⟩
  generalize runtime.sample status = sampled at hsample
  induction status.progressEvents generalizing sampled with
  | nil => exact hsample
  | cons event events ih => exact ih _ (hsample.take attemptId event)

/-- What is persisted goes to the end of the frames. -/
theorem InSequence.persist (h : InSequence runtime frames) {event : ProgressEvent}
    (hpending : runtime.pending = some event) (now : Nat) :
    InSequence { runtime with
        lastPersistedAtNs := some now
        pending := none
        coalescedEvents := 0
        droppedTransportFrames := 0 }
      ((frames ++ [event.sequence.toNat]).drop (frames.length + 1 - 256)) := by
  obtain ⟨hlast, hlater⟩ := h.pending event hpending
  have hnonneg := h.nonneg
  refine ⟨List.Pairwise.drop ?_, ?_, h.nonneg, by simp, fun _ => ?_⟩
  · refine List.pairwise_append.mpr ⟨h.rising, List.pairwise_singleton _ _, fun a ha b hb => ?_⟩
    have hlt := hlater a ha
    rw [List.mem_singleton.mp hb]
    omega
  · simp
    omega
  · have hfew := h.few
    rw [List.drop_append_of_le_length (by omega), List.getLast?_append]
    simp
    omega

variable {watch}

/-- An observation keeps the sequence, and leaves nothing pending when it is forced and returns. -/
theorem InSequence.observe {db : JobDatabase} (h : InSequence runtime (db.frames watch.attemptId))
    (stateVersion : Nat) (status : ProcessStatus) (nowNs : Nat) (force : Bool) :
    InSequence (observeProgress watch stateVersion status nowNs force runtime db).1
        ((((observeProgress watch stateVersion status nowNs force runtime db).2.toOption).getD
          db).frames watch.attemptId) ∧
      (force = true → ∀ db',
        (observeProgress watch stateVersion status nowNs force runtime db).2 = .ok db' →
        (observeProgress watch stateVersion status nowNs force runtime db).1.pending = none) := by
  have htaken := h.takes watch.attemptId status
  rw [observeProgress]
  generalize status.progressEvents.foldl (·.take watch.attemptId) (runtime.sample status) = taken
    at htaken
  cases hp : taken.pending with
  | none => exact ⟨htaken, fun _ _ _ => hp⟩
  | some event =>
    dsimp only
    split_ifs with hlater
    · exact ⟨htaken, fun hforce => by simp [hforce] at hlater⟩
    · cases hrecorded : taken.details event >>= fun details =>
          db.recordProgress watch.attemptId stateVersion details watch.supervisorInstanceId
            nowNs with
      | error fault => exact ⟨htaken, fun _ db' hdb => by cases hdb⟩
      | ok db' =>
        refine ⟨?_, fun _ _ _ => rfl⟩
        obtain ⟨details, hdetails, hrecord⟩ := bind_eq_ok.mp hrecorded
        obtain ⟨-, hdetails⟩ := check_bind_eq_ok.mp hdetails
        obtain ⟨-, hdetails⟩ := check_bind_eq_ok.mp hdetails
        obtain rfl := Except.ok.inj hdetails
        show InSequence _ (db'.frames watch.attemptId)
        rw [recordProgress_frames hrecord]
        exact htaken.persist hp nowNs

/-- What the supervisor and the queue come to, when the attempt has no frame yet. -/
def Observed (watch : ProgressWatch) (runtime : ProgressRuntime) (db : JobDatabase) : Prop :=
  ∃ db₀ : JobDatabase, db₀.frames watch.attemptId = [] ∧
    ReflTransGen (ProgressStep watch) (.empty, db₀) (runtime, db)

theorem Observed.inSequence {db : JobDatabase} (h : Observed watch runtime db) :
    InSequence runtime (db.frames watch.attemptId) := by
  obtain ⟨db₀, h₀, h⟩ := h
  suffices hkept : ∀ s : ProgressRuntime × JobDatabase,
      ReflTransGen (ProgressStep watch) (.empty, db₀) s →
      InSequence s.1 (s.2.frames watch.attemptId) from hkept _ h
  intro s hs
  induction hs with
  | refl =>
    rw [h₀]
    exact ⟨List.Pairwise.nil, Nat.zero_le _, le_rfl, by simp [ProgressRuntime.empty],
      fun _ => rfl⟩
  | tail _ hstep ih =>
    cases hstep with
    | observed runtime db stateVersion status nowNs force =>
      exact (ih.observe stateVersion status nowNs force).1
    | elsewhere runtime same => exact same ▸ ih

/-- **Progress is persisted in sequence.**  Over every run of observations and of anything else that
records no progress of the attempt, its frames are in sequence and never more than 256, and what is
pending comes after all of them, so the queue never refuses it as out of sequence.  An observation
that is forced and returns leaves the last event that was accepted as the last frame. -/
theorem progress_persisted (watch : ProgressWatch) :
    (∀ runtime db, Observed watch runtime db →
      (db.frames watch.attemptId).Pairwise (· < ·) ∧ (db.frames watch.attemptId).length ≤ 256 ∧
      ∀ event ∈ runtime.pending, ∀ frame ∈ db.frames watch.attemptId,
        (frame : Int) < event.sequence) ∧
    ∀ runtime db, Observed watch runtime db → ∀ stateVersion status nowNs runtime' db',
      observeProgress watch stateVersion status nowNs true runtime db = (runtime', .ok db') →
      runtime'.pending = none ∧
        ((db'.frames watch.attemptId).getLast?.map fun frame => (frame : Int)).getD 0
          = runtime'.lastSequence := by
  refine ⟨fun runtime db h => ?_,
    fun runtime db h stateVersion status nowNs runtime' db' hnow => ?_⟩
  · have hlaw := h.inSequence
    exact ⟨hlaw.rising, hlaw.few, fun event he => (hlaw.pending event he).2⟩
  · obtain ⟨hnext, hforced⟩ := h.inSequence.observe stateVersion status nowNs true
    rw [hnow] at hnext hforced
    have hnone := hforced rfl db' rfl
    exact ⟨hnone, hnext.reported hnone⟩

end Jobs

end OnchainBacktest
