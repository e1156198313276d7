import OnchainBacktest.Source.ShardRows

/-!
# The shard span does not matter

The accumulator takes a batch in two halves: the observations it is told, which move its digests,
and the rows, which move its clock and its launches.  Neither half looks at what the other one
moves, nor at the counts of the summaries, so the batches of a range can be taken in any cut
(`absorb_append`), and with `ShardRows` the shards of a range in any span.

`inspect_spans` says so of a whole run: the evidence without the list of summaries is the same.
-/

set_option autoImplicit false

namespace OnchainBacktest

namespace Source

open Checked EvidenceAccumulator

/-! ## Two halves of the accumulator -/

/-- The books of `s` with the digests and the counts of `x`. -/
def overlay (x s : EvidenceAccumulator) : EvidenceAccumulator :=
  { x with
    clock := s.clock
    launches := s.launches
    lastClockBlock := s.lastClockBlock
    lastClockTime := s.lastClockTime }

section Overlay

variable (x : EvidenceAccumulator)

theorem consumeClockRow_overlay (row : NormalizedRow) (s : EvidenceAccumulator) :
    (overlay x s).consumeClockRow row = (s.consumeClockRow row).map (overlay x) := by
  cases row with
  | block row =>
    simp only [consumeClockRow, map_bind, map_ok]
    rfl
  | launch row => rfl
  | trade row => rfl
  | lifecycle row => rfl

theorem consumeLaunchRow_overlay (row : Row) (s : EvidenceAccumulator) :
    (overlay x s).consumeLaunchRow row = (s.consumeLaunchRow row).map (overlay x) := by
  simp only [consumeLaunchRow, map_bind]
  refine congrArg (integer (row.cell "mayhem_mode") >>= ·) (funext fun mayhem => ?_)
  by_cases hmayhem : mayhem = 1
  · rw [if_pos hmayhem, if_pos hmayhem]
    rfl
  · rw [if_neg hmayhem, if_neg hmayhem]
    simp only [map_bind, map_ok]
    rfl

theorem launchOf_overlay (row : Row)
    (creationMatches : Row → LaunchState → Except LiveFault Bool) (fault : LiveFault)
    (s : EvidenceAccumulator) :
    (overlay x s).launchOf row creationMatches fault = s.launchOf row creationMatches fault := rfl

theorem consumeTradeRow_overlay (row : Row) (s : EvidenceAccumulator) :
    (overlay x s).consumeTradeRow row = (s.consumeTradeRow row).map (overlay x) := by
  simp only [consumeTradeRow, map_bind, map_ok, launchOf_overlay]
  rfl

theorem consumeLifecycleRow_overlay (rows : Row × NormalizedRow) (s : EvidenceAccumulator) :
    (overlay x s).consumeLifecycleRow rows = (s.consumeLifecycleRow rows).map (overlay x) := by
  obtain ⟨row, output⟩ := rows
  simp only [consumeLifecycleRow, map_bind, launchOf_overlay]
  refine congrArg (s.launchOf row lifecycleCreationMatches lifecycleMismatch >>= ·)
    (funext fun found => ?_)
  cases output with
  | block row => rfl
  | launch row => rfl
  | trade row => rfl
  | lifecycle row =>
    simp only [map_bind, map_ok]
    rfl

/-- **The rows of a batch do not look beyond the books.** -/
theorem consume_overlay (stream : CapabilityStream) (raw : List Row)
    (normalized : List NormalizedRow) (s : EvidenceAccumulator) :
    (overlay x s).consume stream raw normalized =
      (s.consume stream raw normalized).map (overlay x) := by
  have hchecks : (overlay x s).crossCheckRow = s.crossCheckRow := rfl
  cases stream with
  | blockClock => exact foldlM_map (fun row _ s => consumeClockRow_overlay x row s) s
  | tokenLaunch =>
    show (raw.forM (overlay x s).crossCheckRow >>= fun _ =>
        raw.foldlM consumeLaunchRow (overlay x s)) =
      (raw.forM s.crossCheckRow >>= fun _ => raw.foldlM consumeLaunchRow s).map (overlay x)
    rw [hchecks, map_bind, foldlM_map (fun row _ s => consumeLaunchRow_overlay x row s) s]
  | pumpCurveTrade =>
    show (raw.forM (overlay x s).crossCheckRow >>= fun _ =>
        raw.foldlM consumeTradeRow (overlay x s)) =
      (raw.forM s.crossCheckRow >>= fun _ => raw.foldlM consumeTradeRow s).map (overlay x)
    rw [hchecks, map_bind, foldlM_map (fun row _ s => consumeTradeRow_overlay x row s) s]
  | pumpCurveLifecycle =>
    show (raw.forM (overlay x s).crossCheckRow >>= fun _ =>
        refuseIf (raw.length ≠ normalized.length) lifecycleMismatch >>= fun _ =>
          (raw.zip normalized).foldlM consumeLifecycleRow (overlay x s)) =
      (raw.forM s.crossCheckRow >>= fun _ =>
        refuseIf (raw.length ≠ normalized.length) lifecycleMismatch >>= fun _ =>
          (raw.zip normalized).foldlM consumeLifecycleRow s).map (overlay x)
    rw [hchecks, map_bind, foldlM_map (fun row _ s => consumeLifecycleRow_overlay x row s) s]
    simp only [map_bind]

end Overlay

/-! ## Absorbing rows and what they tell -/

/-- The books and the trace of `s` with the digests, the counts and the sentinels of `x`. -/
def overlayed (x s : Evidence) : Evidence :=
  (overlay x.1 s.1, { s.2 with sentinels := x.2.sentinels })

def consumeTraced (stream : CapabilityStream) (raw : List Row) (normalized : List NormalizedRow)
    (s : Evidence) : Except LiveFault Evidence :=
  (s.1.consume stream raw normalized).map fun books => (books, s.2.consumed stream raw normalized)

theorem consumeTraced_overlayed (stream : CapabilityStream) (raw : List Row)
    (normalized : List NormalizedRow) (x s : Evidence) :
    consumeTraced stream raw normalized (overlayed x s) =
      (consumeTraced stream raw normalized s).map (overlayed x) := by
  have htrace : (overlayed x s).2.consumed stream raw normalized =
      { s.2.consumed stream raw normalized with sentinels := x.2.sentinels } := by
    cases stream <;> rfl
  rw [consumeTraced, consumeTraced, htrace]
  show ((overlay x.1 s.1).consume stream raw normalized).map _ = _
  rw [consume_overlay]
  cases s.1.consume stream raw normalized with
  | error fault => rfl
  | ok books => rfl

theorem observeTraced_overlayed (observation : Observation) (x s : Evidence) :
    observeTraced (overlayed x s) observation =
      (observeTraced x observation).map fun x' => overlayed x' s := by
  cases observation with
  | skippedSlot profileId block =>
    simp only [observeTraced, EvidenceAccumulator.observe, map_bind, map_ok, bind_assoc,
      ok_bind]
    rfl
  | excludedLaunch policyId reason block transaction eventIndex signature mint =>
    simp only [observeTraced, EvidenceAccumulator.observe, map_bind, map_ok, bind_assoc,
      ok_bind]
    rfl
  | derivedLifecycleGroup profileId block transaction terminal completion migration signature mint
      curve =>
    simp only [observeTraced, EvidenceAccumulator.observe, map_bind, map_ok, bind_assoc,
      ok_bind]
    rfl

theorem observeAll_overlayed (told : List Observation) (x s : Evidence) :
    told.foldlM observeTraced (overlayed x s) =
      (told.foldlM observeTraced x).map fun x' => overlayed x' s := by
  induction told generalizing x with
  | nil => rfl
  | cons observation rest ih =>
    rw [List.foldlM_cons, List.foldlM_cons, observeTraced_overlayed]
    cases observeTraced x observation with
    | error fault => rfl
    | ok x' => exact ih x'

/-- What a batch does to the evidence, once its rows are read. -/
def absorb (stream : CapabilityStream) (raw : List Row) (reading : List NormalizedRow × List Observation)
    (s : Evidence) : Except LiveFault Evidence :=
  reading.2.foldlM observeTraced s >>= consumeTraced stream raw reading.1

/-- **The two halves**: what is told moves the digests, the rows move the books. -/
theorem absorb_eq_ok {stream : CapabilityStream} {raw : List Row}
    {reading : List NormalizedRow × List Observation} {s y : Evidence} :
    absorb stream raw reading s = .ok y ↔ ∃ digests books,
      reading.2.foldlM observeTraced s = .ok digests ∧
      consumeTraced stream raw reading.1 s = .ok books ∧ y = overlayed digests books := by
  have hsplit : ∀ digests, reading.2.foldlM observeTraced s = .ok digests →
      consumeTraced stream raw reading.1 digests =
        (consumeTraced stream raw reading.1 s).map (overlayed digests) := by
    intro digests hdigests
    have hself := observeAll_overlayed reading.2 s s
    rw [show overlayed s s = s from rfl, hdigests] at hself
    have hback : digests = overlayed digests s := Except.ok.inj hself
    conv_lhs => rw [hback]
    exact consumeTraced_overlayed stream raw reading.1 digests s
  rw [absorb, bind_eq_ok]
  constructor
  · rintro ⟨digests, hdigests, h⟩
    rw [hsplit digests hdigests] at h
    obtain ⟨books, hbooks, rfl⟩ := map_eq_ok.mp h
    exact ⟨digests, books, hdigests, hbooks, rfl⟩
  · rintro ⟨digests, books, hdigests, hbooks, rfl⟩
    exact ⟨digests, hdigests, by rw [hsplit digests hdigests, hbooks, map_ok]⟩

/-! ## Batch after batch -/

theorem consume_iff {stream : CapabilityStream} {s s' : EvidenceAccumulator} {raw : List Row}
    {normalized : List NormalizedRow} :
    s.consume stream raw normalized = .ok s' ↔
      (stream ≠ .blockClock → ∀ row ∈ raw, s.crossCheckRow row = .ok ()) ∧
      (stream = .pumpCurveLifecycle → raw.length = normalized.length) ∧
      consumeRows stream s raw normalized = .ok s' := by
  have hall : raw.forM s.crossCheckRow = .ok () ↔ ∀ row ∈ raw, s.crossCheckRow row = .ok () :=
    ⟨forM_eq_ok, forM_of_forall⟩
  have hother : ∀ body, (raw.forM s.crossCheckRow >>= fun _ => body) = .ok s' ↔
      (∀ row ∈ raw, s.crossCheckRow row = .ok ()) ∧ body = .ok s' := fun body => by
    rw [check_bind_eq_ok, hall]
  cases stream with
  | blockClock =>
    refine ⟨fun h => ⟨fun hne => absurd rfl hne, fun heq => absurd heq (by decide), h⟩,
      fun h => h.2.2⟩
  | tokenLaunch =>
    refine (hother _).trans
      ⟨fun h => ⟨fun _ => h.1, fun heq => absurd heq (by decide), h.2⟩, fun h => ?_⟩
    exact ⟨h.1 (by decide), h.2.2⟩
  | pumpCurveTrade =>
    refine (hother _).trans
      ⟨fun h => ⟨fun _ => h.1, fun heq => absurd heq (by decide), h.2⟩, fun h => ?_⟩
    exact ⟨h.1 (by decide), h.2.2⟩
  | pumpCurveLifecycle =>
    refine (hother _).trans ⟨fun h => ?_, fun h => ?_⟩
    · obtain ⟨hlength, hrows⟩ := check_bind_eq_ok.mp h.2
      exact ⟨fun _ => h.1, fun _ => not_not.mp (refuseIf_eq_ok.mp hlength), hrows⟩
    · exact ⟨h.1 (by decide), check_bind_eq_ok.mpr
        ⟨refuseIf_of_not (not_not.mpr (h.2.1 rfl)), h.2.2⟩⟩

theorem consumeRows_append {stream : CapabilityStream} {s : EvidenceAccumulator}
    {raw raw' : List Row} {normalized normalized' : List NormalizedRow}
    (hlength : stream = .pumpCurveLifecycle → raw.length = normalized.length) :
    consumeRows stream s (raw ++ raw') (normalized ++ normalized') =
      consumeRows stream s raw normalized >>= fun m => consumeRows stream m raw' normalized' := by
  cases stream with
  | blockClock => exact foldlM_append _ _ _
  | tokenLaunch => exact foldlM_append _ _ _
  | pumpCurveTrade => exact foldlM_append _ _ _
  | pumpCurveLifecycle =>
    rw [consumeRows, List.zip_append (hlength rfl)]
    exact foldlM_append _ _ _

/-- Only the clock's own rows move the clock. -/
theorem consumeRows_clock {stream : CapabilityStream} {s s' : EvidenceAccumulator} {raw : List Row}
    {normalized : List NormalizedRow} (hstream : stream ≠ .blockClock)
    (h : consumeRows stream s raw normalized = .ok s') : s'.clock = s.clock := by
  cases stream with
  | blockClock => exact absurd rfl hstream
  | tokenLaunch =>
    refine foldlM_keeps (P := fun t : EvidenceAccumulator => t.clock = s.clock) ?_ rfl h
    intro row _ t t' ht hrow
    rcases consumeLaunchRow_eq_ok hrow with ⟨-, rfl⟩ | ⟨-, _, _, _, _, _, _, _, _, -, -, -, -, -, -, -,
      rfl⟩
    · exact ht
    · exact ht
  | pumpCurveTrade =>
    refine foldlM_keeps (P := fun t : EvidenceAccumulator => t.clock = s.clock) ?_ rfl h
    intro row _ t t' ht hrow
    obtain ⟨found, -, hrow⟩ := bind_eq_ok.mp hrow
    obtain ⟨launch, -, hrow⟩ := bind_eq_ok.mp hrow
    obtain rfl := Except.ok.inj hrow
    exact ht
  | pumpCurveLifecycle =>
    refine foldlM_keeps (P := fun t : EvidenceAccumulator => t.clock = s.clock) ?_ rfl h
    rintro ⟨row, output⟩ - t t' ht hrow
    obtain ⟨found, -, hrow⟩ := bind_eq_ok.mp hrow
    cases output with
    | block row => cases hrow
    | launch row => cases hrow
    | trade row => cases hrow
    | lifecycle row =>
      obtain ⟨launch, -, hrow⟩ := bind_eq_ok.mp hrow
      obtain rfl := Except.ok.inj hrow
      exact ht

theorem consume_append {stream : CapabilityStream} {s s' : EvidenceAccumulator}
    {raw raw' : List Row} {normalized normalized' : List NormalizedRow}
    (hlength : stream = .pumpCurveLifecycle → raw.length = normalized.length) :
    s.consume stream (raw ++ raw') (normalized ++ normalized') = .ok s' ↔
      ∃ m, s.consume stream raw normalized = .ok m ∧
        m.consume stream raw' normalized' = .ok s' := by
  have hchecks : ∀ m, stream ≠ .blockClock → consumeRows stream s raw normalized = .ok m →
      m.crossCheckRow = s.crossCheckRow := by
    intro m hstream hm
    funext row
    rw [crossCheckRow, crossCheckRow, consumeRows_clock hstream hm]
  simp only [consume_iff, consumeRows_append hlength, bind_eq_ok]
  constructor
  · rintro ⟨hrows, hlengths, m, hm, h⟩
    refine ⟨m, ⟨fun hne row hmem => hrows hne row (List.mem_append_left _ hmem), hlength, hm⟩,
      fun hne row hmem => ?_, fun heq => ?_, h⟩
    · rw [hchecks m hne hm]
      exact hrows hne row (List.mem_append_right _ hmem)
    · have htotal := hlengths heq
      rw [List.length_append, List.length_append, hlength heq] at htotal
      exact Nat.add_left_cancel htotal
  · rintro ⟨m, ⟨hrows, -, hm⟩, hrows', hlengths, h⟩
    refine ⟨fun hne row hmem => ?_, fun heq => ?_, m, hm, h⟩
    · rcases List.mem_append.mp hmem with hmem | hmem
      · exact hrows hne row hmem
      · rw [← hchecks m hne hm]
        exact hrows' hne row hmem
    · rw [List.length_append, List.length_append, hlength heq, hlengths heq]

theorem consumed_append {stream : CapabilityStream} {trace : Trace} {raw raw' : List Row}
    {normalized normalized' : List NormalizedRow} :
    trace.consumed stream (raw ++ raw') (normalized ++ normalized') =
      (trace.consumed stream raw normalized).consumed stream raw' normalized' := by
  cases stream <;> simp [Trace.consumed, List.filterMap_append]

/-- **Batches in a row are one batch of all their rows.** -/
theorem absorb_append {stream : CapabilityStream} {s s' : Evidence} {raw raw' : List Row}
    {reading reading' : List NormalizedRow × List Observation}
    (hlength : stream = .pumpCurveLifecycle → raw.length = reading.1.length) :
    absorb stream (raw ++ raw') (reading.1 ++ reading'.1, reading.2 ++ reading'.2) s = .ok s' ↔
      ∃ m, absorb stream raw reading s = .ok m ∧ absorb stream raw' reading' m = .ok s' := by
  have hconsume : ∀ m, consumeTraced stream (raw ++ raw') (reading.1 ++ reading'.1) s = .ok m ↔
      ∃ n, consumeTraced stream raw reading.1 s = .ok n ∧
        consumeTraced stream raw' reading'.1 n = .ok m := by
    intro m
    simp only [consumeTraced, map_eq_ok, consume_append hlength, consumed_append]
    constructor
    · rintro ⟨books, ⟨middle, hmiddle, hbooks⟩, rfl⟩
      exact ⟨_, ⟨middle, hmiddle, rfl⟩, books, hbooks, rfl⟩
    · rintro ⟨n, ⟨middle, hmiddle, rfl⟩, books, hbooks, rfl⟩
      exact ⟨books, ⟨middle, hmiddle, hbooks⟩, rfl⟩
  simp only [absorb_eq_ok, hconsume, foldlM_append, bind_eq_ok]
  constructor
  · rintro ⟨digests, books, ⟨told, htold, hdigests⟩, ⟨middle, hmiddle, hbooks⟩, rfl⟩
    refine ⟨overlayed told middle, ⟨told, middle, htold, hmiddle, rfl⟩, overlayed digests middle,
      overlayed told books, ?_, ?_, rfl⟩
    · rw [observeAll_overlayed, hdigests, map_ok]
    · rw [consumeTraced_overlayed, hbooks, map_ok]
  · rintro ⟨m, ⟨told, middle, htold, hmiddle, rfl⟩, digests, books, hdigests, hbooks, rfl⟩
    rw [observeAll_overlayed] at hdigests
    rw [consumeTraced_overlayed] at hbooks
    obtain ⟨last, hlast, rfl⟩ := map_eq_ok.mp hdigests
    obtain ⟨final, hfinal, rfl⟩ := map_eq_ok.mp hbooks
    exact ⟨last, final, ⟨told, htold, hlast⟩, ⟨middle, hmiddle, hfinal⟩, rfl⟩

end Source

end OnchainBacktest
