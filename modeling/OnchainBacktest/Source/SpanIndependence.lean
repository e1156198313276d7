import OnchainBacktest.Source.BatchCuts
import OnchainBacktest.Source.EvidenceSoundness
import OnchainBacktest.Source.ShardSpans

/-!
# Evidence does not depend on the shard span

A source whose queries select rows by their block (`Serves`) can be read in shards of any span.
One batch is `absorb` of its rows, a shard and a stream are `absorb` of theirs, and what the
summaries of the shards add up to is counted in the rows (`Tally`), so two spans leave evidence that
differs in the list of summaries alone.
-/

set_option autoImplicit false

namespace OnchainBacktest

namespace Source

open Checked EvidenceAccumulator

/-! ## A source -/

/-- A batch is an answer to its query. -/
structure Answers (reader : SourceReader) (stream : CapabilityStream) (subrange : BlockRange)
    (batch : IndexedBatch) : Prop where
  capability : batch.capabilityId = reader.capabilityId stream
  range : batch.coveredRange = subrange
  columns : batch.columns = RAW_COLUMNS stream
  count : batch.rowCount = batch.rows.length
  width : ∀ row ∈ batch.rows, row.length = batch.columns.length
  fingerprint : batch.queryFingerprint = some (reader.fingerprint stream subrange)

/-- The rows of a source are in the order of their blocks, and a query selects those of its range,
in batches of its own choice. -/
structure Serves (reader : SourceReader) (rows : CapabilityStream → List Row) : Prop where
  answers : ∀ stream subrange, ∀ batch ∈ reader.batches stream subrange,
    Answers reader stream subrange batch
  selects : ∀ stream subrange, (reader.batches stream subrange).flatMap IndexedBatch.readRows =
    rowsIn (rows stream) subrange.fromBlockOrdinal subrange.toBlockOrdinal
  ordered : ∀ stream, InBlockOrder (rows stream)

/-! ## Batches -/

theorem rowsFrom_length {scope : SessionScope} (hstream : scope.stream = .pumpCurveLifecycle)
    {rows : List Row} {state : RowState} {reading : Reading}
    (h : rowsFrom scope state rows = .ok reading) : rows.length = reading.2.1.length := by
  induction rows generalizing state reading with
  | nil =>
    obtain rfl := Except.ok.inj h
    rfl
  | cons row rest ih =>
    obtain ⟨⟨state', output, told⟩, tail, houtcome, htail, rfl⟩ := rowsFrom_cons_eq_ok.mp h
    rw [hstream] at houtcome
    obtain ⟨⟨found, rfl, -⟩, -⟩ := normalizeLifecycle_output houtcome
    rw [List.length_cons, ih htail]
    simp

/-- The session after some rows. -/
structure Continues (session session' : Session) (rows : List Row) (reading : Reading) : Prop where
  scope : session'.scope = session.scope
  failed : session'.failed = session.failed
  summary : session'.summary = session.summary
  rawRows : session'.rawRows = session.rawRows + rows.length
  rowState : session'.rowState = reading.1

/-- The session after a batch. -/
def afterBatch (session : Session) (fingerprint : ContentDigest) (rows : List Row)
    (reading : Reading) : Session :=
  { session with
    queryFingerprint := some fingerprint
    rawRows := session.rawRows + rows.length
    rowState := reading.1
    normalizedStream := session.normalizedStream ++ reading.2.1 }

section Batches

variable {reader : SourceReader} {stream : CapabilityStream} {subrange : BlockRange}

/-- A session of a shard, before or after some of its batches. -/
structure InShard (reader : SourceReader) (stream : CapabilityStream) (subrange : BlockRange)
    (session : Session) : Prop where
  scope : session.scope = reader.scope stream subrange
  fingerprint : session.queryFingerprint = none ∨
    session.queryFingerprint = some (reader.fingerprint stream subrange)

/-- **One batch is `absorb` of its rows.** -/
theorem inspectBatch_eq_ok {session : Session} (hsession : InShard reader stream subrange session)
    {batch : IndexedBatch} (hbatch : Answers reader stream subrange batch) {e : Evidence}
    {state : Session × Evidence} :
    inspectBatch reader stream subrange (session, e) batch = .ok state ↔ ∃ reading,
      rowsFrom (reader.scope stream subrange) session.rowState batch.readRows = .ok reading ∧
      absorb stream batch.readRows reading.2 e = .ok state.2 ∧
      state.1 = afterBatch session (reader.fingerprint stream subrange) batch.readRows reading := by
  have hraw : validateRawBatch (reader.scope stream subrange) (reader.fingerprint stream subrange)
      batch = .ok () := by
    refine refuseIf_of_not ?_
    rintro (h | h | h | h)
    · exact h hbatch.capability
    · exact h hbatch.range
    · exact h hbatch.columns
    · exact h hbatch.fingerprint
  have haccepts : session.Accepts batch := by
    refine ⟨?_, ?_, ?_, hbatch.count, hbatch.width, ⟨_, hbatch.fingerprint⟩, ?_⟩
    · rw [hsession.scope]
      exact hbatch.capability
    · rw [hsession.scope]
      exact hbatch.range
    · rw [hsession.scope]
      exact hbatch.columns
    · rw [hbatch.fingerprint]
      exact hsession.fingerprint
  rw [inspectBatch, hraw, ok_bind]
  constructor
  · intro h
    obtain ⟨⟨session', told, normalized⟩, hnormalized, h⟩ := bind_eq_ok.mp h
    obtain ⟨-, reading, hreading, htold, rfl, -, hrows⟩ := Session.tryNormalize_eq_ok.mp hnormalized
    obtain ⟨books, hbooks, h⟩ := bind_eq_ok.mp h
    obtain rfl := Except.ok.inj h
    have houtput : normalized.rows = reading.2.1 := by rw [hrows]
    rw [houtput] at hbooks ⊢
    refine ⟨reading, hsession.scope ▸ hreading, ?_, by rw [hbatch.fingerprint]; rfl⟩
    rw [absorb, htold, ok_bind, consumeTraced, hbooks, map_ok]
  · rintro ⟨reading, hreading, habsorb, hstate⟩
    rw [absorb] at habsorb
    obtain ⟨told, htold, hconsumed⟩ := bind_eq_ok.mp habsorb
    obtain ⟨books, hbooks, hresult⟩ := map_eq_ok.mp hconsumed
    have hnormalized : session.tryNormalize observeTraced e batch = .ok (_, told,
        ⟨session.scope.capabilityId, session.scope.coveredRange, reading.2.1,
          reader.fingerprint stream subrange⟩) :=
      Session.tryNormalize_eq_ok.mpr ⟨haccepts, reading, hsession.scope.symm ▸ hreading, htold, rfl,
        hbatch.fingerprint, rfl⟩
    rw [hnormalized, ok_bind]
    dsimp only
    rw [hbooks, ok_bind]
    refine congrArg Except.ok (Prod.ext ?_ hresult)
    rw [hstate, hbatch.fingerprint]
    rfl

theorem absorb_nil {e : Evidence} : absorb stream [] ([], []) e = .ok e := by
  have htrace : e.2.consumed stream [] [] = e.2 := by
    cases stream <;> simp [Trace.consumed]
  show (e.1.consume stream [] []).map (fun books => (books, e.2.consumed stream [] [])) = .ok e
  rw [htrace]
  cases stream <;> rfl

theorem InShard.next {session : Session} (h : InShard reader stream subrange session)
    (rows : List Row) (reading : Reading) :
    InShard reader stream subrange
      (afterBatch session (reader.fingerprint stream subrange) rows reading) :=
  ⟨h.scope, .inr rfl⟩

/-- The rows of an accepted batch and the rows after it. -/
theorem lengths_of_reading {rows : List Row} {state : RowState} {reading : Reading}
    (h : rowsFrom (reader.scope stream subrange) state rows = .ok reading) :
    stream = .pumpCurveLifecycle → rows.length = reading.2.1.length :=
  fun hstream => rowsFrom_length hstream h

/-- **The batches of a shard are `absorb` of their rows.** -/
theorem batches_read {batches : List IndexedBatch} {session : Session}
    (hsession : InShard reader stream subrange session)
    (hbatches : ∀ batch ∈ batches, Answers reader stream subrange batch) {e : Evidence}
    {state : Session × Evidence}
    (h : batches.foldlM (inspectBatch reader stream subrange) (session, e) = .ok state) :
    ∃ reading, rowsFrom (reader.scope stream subrange) session.rowState
          (batches.flatMap IndexedBatch.readRows) = .ok reading ∧
        absorb stream (batches.flatMap IndexedBatch.readRows) reading.2 e = .ok state.2 ∧
        Continues session state.1 (batches.flatMap IndexedBatch.readRows) reading := by
  induction batches generalizing session e with
  | nil =>
    obtain rfl := Except.ok.inj h
    exact ⟨(session.rowState, [], []), rfl, absorb_nil, ⟨rfl, rfl, rfl, rfl, rfl⟩⟩
  | cons batch rest ih =>
    rw [List.foldlM_cons] at h
    obtain ⟨⟨middle, e'⟩, hmiddle, hrest⟩ := bind_eq_ok.mp h
    obtain ⟨reading, hreading, habsorb, hstate⟩ :=
      (inspectBatch_eq_ok hsession (hbatches batch List.mem_cons_self)).mp hmiddle
    dsimp only at habsorb hstate
    subst hstate
    obtain ⟨tail, htail, habsorb', hcontinues⟩ := ih (hsession.next batch.readRows reading)
      (fun other hmem => hbatches other (List.mem_cons_of_mem _ hmem)) hrest
    rw [List.flatMap_cons]
    refine ⟨(tail.1, reading.2.1 ++ tail.2.1, reading.2.2 ++ tail.2.2),
      rowsFrom_append_eq_ok.mpr ⟨reading, tail, hreading, htail, rfl⟩, ?_, ?_⟩
    · exact (absorb_append (lengths_of_reading hreading)).mpr ⟨e', habsorb, habsorb'⟩
    · refine ⟨hcontinues.scope, hcontinues.failed, hcontinues.summary, ?_, hcontinues.rowState⟩
      rw [hcontinues.rawRows, List.length_append, ← Nat.add_assoc]
      rfl

theorem batches_of_rows {batches : List IndexedBatch} {session : Session}
    (hsession : InShard reader stream subrange session)
    (hbatches : ∀ batch ∈ batches, Answers reader stream subrange batch) {e e' : Evidence}
    {reading : Reading}
    (hreading : rowsFrom (reader.scope stream subrange) session.rowState
      (batches.flatMap IndexedBatch.readRows) = .ok reading)
    (habsorb : absorb stream (batches.flatMap IndexedBatch.readRows) reading.2 e = .ok e') :
    ∃ session', batches.foldlM (inspectBatch reader stream subrange) (session, e) =
        .ok (session', e') ∧
      Continues session session' (batches.flatMap IndexedBatch.readRows) reading := by
  induction batches generalizing session e reading with
  | nil =>
    obtain rfl := Except.ok.inj hreading
    obtain rfl := Except.ok.inj (absorb_nil.symm.trans habsorb)
    exact ⟨session, rfl, ⟨rfl, rfl, rfl, rfl, rfl⟩⟩
  | cons batch rest ih =>
    rw [List.flatMap_cons] at hreading habsorb
    obtain ⟨first, tail, hfirst, htail, rfl⟩ := rowsFrom_append_eq_ok.mp hreading
    obtain ⟨middle, hmiddle, hrest⟩ := (absorb_append (lengths_of_reading hfirst)).mp habsorb
    obtain ⟨session', hsession', hcontinues⟩ := ih (hsession.next batch.readRows first)
      (fun other hmem => hbatches other (List.mem_cons_of_mem _ hmem)) htail hrest
    refine ⟨session', ?_, ?_⟩
    · have hnext : inspectBatch reader stream subrange (session, e) batch =
          .ok (afterBatch session (reader.fingerprint stream subrange) batch.readRows first,
            middle) :=
        (inspectBatch_eq_ok hsession (hbatches batch List.mem_cons_self)).mpr
          ⟨first, hfirst, hmiddle, rfl⟩
      rw [List.foldlM_cons, hnext, ok_bind]
      exact hsession'
    · refine ⟨hcontinues.scope, hcontinues.failed, hcontinues.summary, ?_, hcontinues.rowState⟩
      rw [hcontinues.rawRows, List.flatMap_cons, List.length_append, ← Nat.add_assoc]
      rfl

end Batches

/-! ## Counts -/

/-- `s` with the counts and the list of summaries of `x`. -/
def countedAs (x s : Evidence) : Evidence :=
  ({ s.1 with
      summaries := x.1.summaries
      rawRows := x.1.rawRows
      launchClassifiedCount := x.1.launchClassifiedCount
      launchEligibleCount := x.1.launchEligibleCount
      summaryExcludedLaunches := x.1.summaryExcludedLaunches
      summarySentinels := x.1.summarySentinels
      summaryLifecycleGroups := x.1.summaryLifecycleGroups }, s.2)

theorem observeTraced_countedAs (observation : Observation) (x s : Evidence) :
    observeTraced (countedAs x s) observation =
      (observeTraced s observation).map (countedAs x) := by
  cases observation with
  | skippedSlot profileId block =>
    simp only [observeTraced, EvidenceAccumulator.observe, map_bind, map_ok, bind_assoc,
      ok_bind]
    rfl
  | excludedLaunch policyId reason block transaction eventIndex signature mint =>
    simp only [observeTraced, EvidenceAccumulator.observe, map_bind, map_ok, bind_assoc,
      ok_bind]
    rfl
  | derivedLifecycleGroup profileId block transaction terminal completion migration signature mint
      curve =>
    simp only [observeTraced, EvidenceAccumulator.observe, map_bind, map_ok, bind_assoc,
      ok_bind]
    rfl

theorem consumeTraced_countedAs (stream : CapabilityStream) (raw : List Row)
    (normalized : List NormalizedRow) (x s : Evidence) :
    consumeTraced stream raw normalized (countedAs x s) =
      (consumeTraced stream raw normalized s).map (countedAs x) := by
  have hself := consumeTraced_overlayed stream raw normalized s s
  rw [show overlayed s s = s from rfl] at hself
  have hover := consumeTraced_overlayed stream raw normalized (countedAs x s) s
  rw [show overlayed (countedAs x s) s = countedAs x s from rfl] at hover
  rw [hover]
  cases hbooks : consumeTraced stream raw normalized s with
  | error fault => rfl
  | ok books =>
    rw [hbooks] at hself
    have hback : books = overlayed s books := Except.ok.inj hself
    rw [map_ok, map_ok, hback]
    rfl

/-- **Nothing a batch does looks at the counts.** -/
theorem absorb_countedAs (stream : CapabilityStream) (raw : List Row)
    (reading : List NormalizedRow × List Observation) (x s : Evidence) :
    absorb stream raw reading (countedAs x s) = (absorb stream raw reading s).map (countedAs x) := by
  rw [absorb, absorb, foldlM_map (fun observation _ s => observeTraced_countedAs observation x s) s]
  cases reading.2.foldlM observeTraced s with
  | error fault => rfl
  | ok told => exact consumeTraced_countedAs stream raw reading.1 x told

/-- A change of the counts alone. -/
def CountsOnly (g : Evidence → Evidence) : Prop := ∀ e s, g (countedAs e s) = countedAs (g e) s

theorem absorb_counts {stream : CapabilityStream} {raw : List Row}
    {reading : List NormalizedRow × List Observation} {g : Evidence → Evidence} (hg : CountsOnly g)
    (s : Evidence) : absorb stream raw reading (g s) = (absorb stream raw reading s).map g := by
  have hself : g s = countedAs (g s) s := hg s s
  have hkept := absorb_countedAs stream raw reading s s
  rw [show countedAs s s = s from rfl] at hkept
  rw [hself, absorb_countedAs]
  cases habsorb : absorb stream raw reading s with
  | error fault => rfl
  | ok x =>
    rw [habsorb] at hkept
    have hback : x = countedAs s x := Except.ok.inj hkept
    rw [map_ok, map_ok, hback, hg s x]
    rfl

/-- What the summary of some rows counts. -/
structure Tally where
  raw : Nat
  classified : Nat
  eligible : Nat
  excluded : Nat
  sentinels : Nat
  groups : Nat

namespace Tally

def add (a b : Tally) : Tally :=
  ⟨a.raw + b.raw, a.classified + b.classified, a.eligible + b.eligible, a.excluded + b.excluded,
    a.sentinels + b.sentinels, a.groups + b.groups⟩

def isExcluded : Observation → Bool
  | .excludedLaunch .. => true
  | _ => false

def isSkipped : Observation → Bool
  | .skippedSlot .. => true
  | _ => false

def isGroup : Observation → Bool
  | .derivedLifecycleGroup .. => true
  | _ => false

/-- The counts of some rows, from what they put out and tell. -/
def of (stream : CapabilityStream) (rows : List Row)
    (reading : List NormalizedRow × List Observation) : Tally where
  raw := rows.length
  classified := if stream = .tokenLaunch then rows.length else 0
  eligible := (reading.1.filterMap NormalizedRow.launch?).length
  excluded := reading.2.countP isExcluded
  sentinels := reading.2.countP isSkipped
  groups := reading.2.countP isGroup

theorem of_append (stream : CapabilityStream) (rows rows' : List Row)
    (reading reading' : List NormalizedRow × List Observation) :
    of stream (rows ++ rows') (reading.1 ++ reading'.1, reading.2 ++ reading'.2) =
      (of stream rows reading).add (of stream rows' reading') := by
  by_cases hlaunch : stream = .tokenLaunch
  · simp [of, add, hlaunch, List.countP_append]
  · simp [of, add, hlaunch, List.countP_append]

end Tally

/-- A row state counts on from another one. -/
structure CountsOn (state state' : RowState) (tally : Tally) : Prop where
  classified : state'.launchClassified = state.launchClassified + tally.classified
  eligible : state'.launchEligible = state.launchEligible + tally.eligible
  excluded : state'.exclusions.length = state.exclusions.length + tally.excluded
  sentinels : state'.sentinels.length = state.sentinels.length + tally.sentinels
  groups : state'.lifecycleGroups.length = state.lifecycleGroups.length + tally.groups

theorem startLifecyclePosition_counts {state : RowState} {key : Option OrderKey}
    {block transaction : Nat} :
    CountsOn state
      (RowState.startLifecyclePosition { state with lastOrderKey := key } block transaction)
      ⟨0, 0, 0, 0, 0, 0⟩ := by
  rw [RowState.startLifecyclePosition]
  split
  · exact ⟨rfl, rfl, rfl, rfl, rfl⟩
  · exact ⟨rfl, rfl, rfl, rfl, rfl⟩

/-- One row counts what it puts out and tells. -/
theorem normalizeRow_counts {feeProfile : PumpFeeProfile} {stream : CapabilityStream}
    {range : BlockRange} {state state' : RowState} {row : Row} {output : Option NormalizedRow}
    {told : Option Observation}
    (h : normalizeRow feeProfile stream range state row = .ok (state', output, told)) :
    CountsOn state state' (Tally.of stream [row] (output.toList, told.toList)) := by
  cases stream with
  | blockClock =>
    rcases (normalizeBlock_eq_ok h).2 with ⟨_, rfl, rfl, -, ⟨_, -, -, rfl⟩, -⟩ | ⟨rfl, rfl, rfl⟩
    · exact ⟨rfl, rfl, rfl, rfl, rfl⟩
    · exact ⟨rfl, rfl, rfl, List.length_append, rfl⟩
  | tokenLaunch =>
    obtain ⟨_, _, _, _, _, -, -, -, -, -, -, -, -, hcase⟩ := normalizeLaunch_eq_ok h
    rcases hcase with ⟨_, -, -, -, -, -, rfl, rfl, rfl⟩ | ⟨-, rfl, rfl, rfl⟩
    · exact ⟨rfl, rfl, rfl, rfl, rfl⟩
    · exact ⟨rfl, rfl, List.length_append, rfl, rfl⟩
  | pumpCurveTrade =>
    obtain ⟨_, _, -, -, -, -, -, -, -, rfl, rfl, rfl⟩ := normalizeTrade_eq_ok h
    exact ⟨rfl, rfl, rfl, rfl, rfl⟩
  | pumpCurveLifecycle =>
    obtain ⟨fields, kind, -, -, -, -, -, -, base, hbase, hkind⟩ := normalizeLifecycle_eq_ok h
    have hcounts : CountsOn state base ⟨0, 0, 0, 0, 0, 0⟩ := hbase ▸ startLifecyclePosition_counts
    rcases hkind with ⟨-, hcompletion⟩ | ⟨-, hmigration⟩
    · obtain ⟨_, _, -, -, -, -, -, -, rfl, rfl, rfl⟩ := normalizeCompletion_eq_ok hcompletion
      exact ⟨hcounts.classified, hcounts.eligible, hcounts.excluded, hcounts.sentinels,
        hcounts.groups⟩
    · obtain ⟨_, -, -, -, hmigration⟩ := normalizeMigration_eq_ok hmigration
      rcases hmigration with hderived | hstandalone
      · obtain ⟨_, -, -, -, rfl, rfl, rfl⟩ := normalizeDerivedMigration_eq_ok hderived
        refine ⟨hcounts.classified, hcounts.eligible, hcounts.excluded, hcounts.sentinels, ?_⟩
        rw [List.length_append, hcounts.groups]
        rfl
      · obtain ⟨-, rfl, rfl, rfl⟩ := normalizeStandaloneMigration_eq_ok hstandalone
        exact ⟨hcounts.classified, hcounts.eligible, hcounts.excluded, hcounts.sentinels,
          hcounts.groups⟩

theorem CountsOn.trans {first second third : RowState} {tally tally' : Tally}
    (h : CountsOn first second tally) (h' : CountsOn second third tally') :
    CountsOn first third (tally.add tally') where
  classified := by rw [h'.classified, h.classified, Nat.add_assoc]; rfl
  eligible := by rw [h'.eligible, h.eligible, Nat.add_assoc]; rfl
  excluded := by rw [h'.excluded, h.excluded, Nat.add_assoc]; rfl
  sentinels := by rw [h'.sentinels, h.sentinels, Nat.add_assoc]; rfl
  groups := by rw [h'.groups, h.groups, Nat.add_assoc]; rfl

/-- **The rows of a session count what they put out and tell.** -/
theorem rowsFrom_counts {scope : SessionScope} {rows : List Row} {state : RowState}
    {reading : Reading} (h : rowsFrom scope state rows = .ok reading) :
    CountsOn state reading.1 (Tally.of scope.stream rows reading.2) := by
  induction rows generalizing state reading with
  | nil =>
    obtain rfl := Except.ok.inj h
    refine ⟨?_, rfl, rfl, rfl, rfl⟩
    rw [Tally.of]
    split <;> rfl
  | cons row rest ih =>
    obtain ⟨⟨state', output, told⟩, tail, houtcome, htail, rfl⟩ := rowsFrom_cons_eq_ok.mp h
    have hsplit := Tally.of_append scope.stream [row] rest (output.toList, told.toList) tail.2
    rw [List.singleton_append] at hsplit
    show CountsOn state tail.1 (Tally.of scope.stream (row :: rest)
      (output.toList ++ tail.2.1, told.toList ++ tail.2.2))
    rw [hsplit]
    exact (normalizeRow_counts houtcome).trans (ih htail)

/-! ## Shards -/

/-- The evidence without its list of summaries. -/
def unlisted (e : Evidence) : Evidence := ({ e.1 with summaries := [] }, e.2)

def tallied (stream : CapabilityStream) (tally : Tally) (e : Evidence) : Evidence :=
  ({ e.1 with
      rawRows := fun s => if s = stream then e.1.rawRows s + tally.raw else e.1.rawRows s
      launchClassifiedCount := e.1.launchClassifiedCount + tally.classified
      launchEligibleCount := e.1.launchEligibleCount + tally.eligible
      summaryExcludedLaunches := e.1.summaryExcludedLaunches + tally.excluded
      summarySentinels := e.1.summarySentinels + tally.sentinels
      summaryLifecycleGroups := e.1.summaryLifecycleGroups + tally.groups }, e.2)

theorem tallied_add (stream : CapabilityStream) (tally tally' : Tally) (e : Evidence) :
    tallied stream tally' (tallied stream tally e) = tallied stream (tally.add tally') e := by
  have hraw : ∀ counts : CapabilityStream → Nat,
      (fun s => if s = stream then
          (if s = stream then counts s + tally.raw else counts s) + tally'.raw
        else if s = stream then counts s + tally.raw else counts s) =
      fun s => if s = stream then counts s + (tally.raw + tally'.raw) else counts s := by
    intro counts
    funext s
    by_cases hsame : s = stream
    · simp [hsame, Nat.add_assoc]
    · simp [hsame]
  simp only [tallied, Tally.add, hraw, Nat.add_assoc]

theorem tallied_nil (stream : CapabilityStream) (e : Evidence) :
    tallied stream (Tally.of stream [] ([], [])) e = e := by
  have hzero : Tally.of stream [] ([], []) = ⟨0, 0, 0, 0, 0, 0⟩ := by simp [Tally.of]
  rw [hzero]
  refine Prod.ext ?_ rfl
  simp only [tallied, Nat.add_zero, ite_self]

theorem unlisted_countsOnly : CountsOnly unlisted := fun _ _ => rfl

theorem tallied_countsOnly (stream : CapabilityStream) (tally : Tally) :
    CountsOnly (tallied stream tally) := fun _ _ => rfl

/-- What is done from two evidences that agree but for their summaries agrees too. -/
theorem absorb_unlisted {stream : CapabilityStream} {raw : List Row}
    {reading : List NormalizedRow × List Observation} {s t x : Evidence}
    (hsame : unlisted s = unlisted t) (h : absorb stream raw reading s = .ok x) :
    ∃ y, absorb stream raw reading t = .ok y ∧ unlisted x = unlisted y := by
  have hunlisted : absorb stream raw reading (unlisted t) = .ok (unlisted x) := by
    rw [← hsame, absorb_counts unlisted_countsOnly, h, map_ok]
  rw [absorb_counts unlisted_countsOnly] at hunlisted
  obtain ⟨y, hy, heq⟩ := map_eq_ok.mp hunlisted
  exact ⟨y, hy, heq.symm⟩

section Shards

variable {reader : SourceReader} {rows : CapabilityStream → List Row} {stream : CapabilityStream}

/-- The rows of a shard. -/
def shardRows (rows : CapabilityStream → List Row) (stream : CapabilityStream)
    (subrange : BlockRange) : List Row :=
  rowsIn (rows stream) subrange.fromBlockOrdinal subrange.toBlockOrdinal

theorem shardReads_length {subrange : BlockRange} {reading : Reading}
    (h : ShardReads reader stream (rows stream) subrange reading) :
    stream = .pumpCurveLifecycle →
      (shardRows rows stream subrange).length = reading.2.1.length :=
  lengths_of_reading h.1

/-- The rows of a first shard and those of the others. -/
theorem absorb_cons {raw raw' : List Row} {reading : Reading} (readings : List Reading)
    {s s' : Evidence} (hlength : stream = .pumpCurveLifecycle → raw.length = reading.2.1.length) :
    absorb stream (raw ++ raw') (outputs (reading :: readings), tolds (reading :: readings)) s =
        .ok s' ↔
      ∃ m, absorb stream raw reading.2 s = .ok m ∧
        absorb stream raw' (outputs readings, tolds readings) m = .ok s' :=
  @absorb_append stream s s' raw raw' reading.2 (outputs readings, tolds readings) hlength

variable (stream) in
/-- The shards of a range select all its rows. -/
theorem shardsFrom_rows (hserves : Serves reader rows) (range : BlockRange) {span : Nat}
    (hspan : 0 < span) {fuel position : Nat} (hto : position ≤ range.toBlockOrdinal)
    (hfuel : range.toBlockOrdinal - position ≤ fuel) :
    (shardsFrom range span hspan fuel position).flatMap (shardRows rows stream) =
      rowsIn (rows stream) position range.toBlockOrdinal := by
  induction fuel generalizing position with
  | zero =>
    obtain rfl : position = range.toBlockOrdinal := by omega
    rw [rowsIn_empty]
    rfl
  | succ fuel ih =>
    rw [shardsFrom]
    by_cases hmore : position < range.toBlockOrdinal
    · have hmid : position ≤ min (position + span) range.toBlockOrdinal := le_min (by omega) hto
      rw [dif_pos hmore, List.flatMap_cons, ih (Nat.min_le_right _ _) (by omega),
        rowsIn_split (hserves.ordered stream) hmid (Nat.min_le_right _ _)]
      rfl
    · obtain rfl : position = range.toBlockOrdinal := by omega
      rw [dif_neg hmore, rowsIn_empty]
      rfl

/-- The clock takes blocks in the order of their times. -/
theorem consumeClockRows_times {normalized : List NormalizedRow} {s s' : EvidenceAccumulator}
    (h : normalized.foldlM consumeClockRow s = .ok s') :
    (producedTimes normalized).Pairwise (· ≤ ·) ∧
      ∀ last ∈ s.lastClockTime, ∀ time ∈ producedTimes normalized, last ≤ time := by
  induction normalized generalizing s with
  | nil => exact ⟨.nil, fun _ _ _ hmem => absurd hmem List.not_mem_nil⟩
  | cons row rest ih =>
    rw [List.foldlM_cons] at h
    obtain ⟨m, hm, hrest⟩ := bind_eq_ok.mp h
    obtain ⟨hlater, hbounds⟩ := ih hrest
    cases row with
    | block row =>
      obtain ⟨hfresh, hm⟩ := check_bind_eq_ok.mp hm
      obtain rfl := Except.ok.inj hm
      have hfirst : ∀ last ∈ s.lastClockTime, last ≤ row.blockTime := fun last hmem =>
        not_lt.mp fun hlt => refuseIf_eq_ok.mp hfresh (.inr (.inr ⟨last, hmem, hlt⟩))
      have hnext : ∀ time ∈ producedTimes rest, row.blockTime ≤ time := hbounds _ rfl
      refine ⟨List.pairwise_cons.mpr ⟨hnext, hlater⟩, fun last hlast time hmem => ?_⟩
      rcases List.mem_cons.mp hmem with rfl | hmem
      · exact hfirst last hlast
      · exact (hfirst last hlast).trans (hnext time hmem)
    | launch row => cases hm
    | trade row => cases hm
    | lifecycle row => cases hm

theorem absorb_times {raw : List Row} {reading : List NormalizedRow × List Observation}
    {e x : Evidence} (h : absorb .blockClock raw reading e = .ok x) :
    (producedTimes reading.1).Pairwise (· ≤ ·) := by
  obtain ⟨_, books, -, hbooks, -⟩ := absorb_eq_ok.mp h
  obtain ⟨clock, hclock, -⟩ := map_eq_ok.mp hbooks
  exact (consumeClockRows_times hclock).1

variable [OrderedHash]

theorem finish_fresh {session : Session} (hfailed : session.failed = false)
    (hsummary : session.summary = none) {summary : PumpfunNormalizationSummary} :
    session.finish.2 = .ok summary ↔ session.Covered ∧ summary = session.summarize := by
  rw [Session.finish, if_neg (by simp [hfailed]), hsummary]
  by_cases hcovered : session.Covered
  · simp [hcovered, eq_comm]
  · simp [hcovered]

theorem addSummary_unlisted {session : Session} {tally : Tally} {subrange : BlockRange}
    (e : Evidence) (fingerprint : ContentDigest) (hstream : session.scope.stream = stream)
    (hraw : session.rawRows = tally.raw)
    (hcounts : CountsOn (RowState.start subrange) session.rowState tally) :
    ∃ summed, e.1.addSummary stream subrange fingerprint session.summarize = .ok summed ∧
      unlisted (summed, e.2) = tallied stream tally (unlisted e) := by
  obtain ⟨hclassified, heligible, hexcluded, hsentinels, hgroups⟩ := hcounts
  have hzero : ∀ {n m : Nat}, n = 0 + m → n = m := fun h => h.trans (Nat.zero_add _)
  refine ⟨_, check_bind_eq_ok.mpr ⟨refuseIf_of_not (not_not.mpr hstream), rfl⟩, ?_⟩
  simp only [unlisted, tallied, Session.summarize, hraw, hzero hclassified, hzero heligible,
    hzero hexcluded, hzero hsentinels, hzero hgroups]

/-- **One shard is `absorb` of its rows and their counts.** -/
theorem inspectShard_eq_ok (hserves : Serves reader rows) {subrange : BlockRange} {e e' : Evidence}
    (h : inspectShard reader stream e subrange = .ok e') :
    ∃ reading x, ShardReads reader stream (rows stream) subrange reading ∧
      absorb stream (shardRows rows stream subrange) reading.2 e = .ok x ∧
      unlisted e' = tallied stream (Tally.of stream (shardRows rows stream subrange) reading.2)
        (unlisted x) := by
  obtain ⟨⟨session, x⟩, hbatches, h⟩ := bind_eq_ok.mp h
  obtain ⟨summary, hfinish, h⟩ := bind_eq_ok.mp h
  obtain ⟨summed, hsummed, h⟩ := bind_eq_ok.mp h
  obtain rfl := Except.ok.inj h
  have hstart : InShard reader stream subrange (Session.start (reader.scope stream subrange)) :=
    ⟨rfl, .inl rfl⟩
  obtain ⟨reading, hreading, habsorb, hcontinues⟩ :=
    batches_read hstart (hserves.answers stream subrange) hbatches
  rw [hserves.selects] at hreading habsorb hcontinues
  obtain ⟨hcovered, rfl⟩ := (finish_fresh hcontinues.failed hcontinues.summary).mp hfinish
  have hscope : session.scope.stream = stream := congrArg SessionScope.stream hcontinues.scope
  have hraw : session.rawRows =
      (Tally.of stream (shardRows rows stream subrange) reading.2).raw :=
    hcontinues.rawRows.trans (Nat.zero_add _)
  obtain ⟨summed', hsummed', hcounted⟩ := addSummary_unlisted x
    (reader.fingerprint stream subrange) hscope hraw
    (hcontinues.rowState ▸ rowsFrom_counts hreading)
  obtain rfl := Except.ok.inj (hsummed.symm.trans hsummed')
  refine ⟨reading, x, ⟨hreading, fun hclock => ?_⟩, habsorb, hcounted⟩
  have hreached := hcovered (hscope.trans hclock)
  rw [hcontinues.rowState, hcontinues.scope] at hreached
  exact hreached

theorem inspectShard_of_rows (hserves : Serves reader rows) {subrange : BlockRange}
    {e x : Evidence} {reading : Reading}
    (hreads : ShardReads reader stream (rows stream) subrange reading)
    (habsorb : absorb stream (shardRows rows stream subrange) reading.2 e = .ok x) :
    ∃ e', inspectShard reader stream e subrange = .ok e' ∧
      unlisted e' = tallied stream (Tally.of stream (shardRows rows stream subrange) reading.2)
        (unlisted x) := by
  have hstart : InShard reader stream subrange (Session.start (reader.scope stream subrange)) :=
    ⟨rfl, .inl rfl⟩
  obtain ⟨hreading, hend⟩ := hreads
  have hselects := hserves.selects stream subrange
  rw [shardRows, ← hselects] at habsorb
  rw [← hselects] at hreading
  obtain ⟨session, hbatches, hcontinues⟩ :=
    batches_of_rows hstart (hserves.answers stream subrange) hreading habsorb
  rw [hselects] at hreading hcontinues
  have hscope : session.scope.stream = stream := congrArg SessionScope.stream hcontinues.scope
  have hcovered : session.Covered := by
    intro hclock
    rw [hcontinues.rowState, hcontinues.scope]
    exact hend (hscope.symm.trans hclock)
  have hraw : session.rawRows =
      (Tally.of stream (shardRows rows stream subrange) reading.2).raw :=
    hcontinues.rawRows.trans (Nat.zero_add _)
  obtain ⟨summed, hsummed, hcounted⟩ := addSummary_unlisted x
    (reader.fingerprint stream subrange) hscope hraw
    (hcontinues.rowState ▸ rowsFrom_counts hreading)
  refine ⟨(summed, x.2), ?_, hcounted⟩
  have hfinish := (finish_fresh hcontinues.failed hcontinues.summary).mpr ⟨hcovered, rfl⟩
  rw [inspectShard, hbatches, ok_bind, hfinish, ok_bind, hsummed, ok_bind]

/-- **Shards in a row are `absorb` of all their rows and their counts.** -/
theorem inspectShards_eq_ok (hserves : Serves reader rows) {subranges : List BlockRange}
    {e e' : Evidence} (h : subranges.foldlM (inspectShard reader stream) e = .ok e') :
    ∃ readings x, List.Forall₂ (ShardReads reader stream (rows stream)) subranges readings ∧
      absorb stream (subranges.flatMap (shardRows rows stream)) (outputs readings, tolds readings)
        e = .ok x ∧
      unlisted e' = tallied stream (Tally.of stream (subranges.flatMap (shardRows rows stream))
        (outputs readings, tolds readings)) (unlisted x) := by
  induction subranges generalizing e with
  | nil =>
    obtain rfl := Except.ok.inj h
    refine ⟨[], e, .nil, absorb_nil, ?_⟩
    exact (tallied_nil stream (unlisted e)).symm
  | cons subrange rest ih =>
    rw [List.foldlM_cons] at h
    obtain ⟨m, hm, hrest⟩ := bind_eq_ok.mp h
    obtain ⟨reading, x, hreads, habsorb, hcounted⟩ := inspectShard_eq_ok hserves hm
    obtain ⟨readings, y, hreadings, habsorb', hcounted'⟩ := ih hrest
    -- the later shards do as much without the summary of the first
    have hlater : absorb stream (rest.flatMap (shardRows rows stream))
        (outputs readings, tolds readings) (tallied stream (Tally.of stream
          (shardRows rows stream subrange) reading.2) (unlisted x)) = .ok (unlisted y) := by
      rw [← hcounted, absorb_counts unlisted_countsOnly, habsorb', map_ok]
    rw [absorb_counts (tallied_countsOnly _ _), absorb_counts unlisted_countsOnly] at hlater
    obtain ⟨z', hz', hz⟩ := map_eq_ok.mp hlater
    obtain ⟨z, hlast, rfl⟩ := map_eq_ok.mp hz'
    refine ⟨reading :: readings, z, .cons hreads hreadings, ?_, ?_⟩
    · exact (absorb_cons readings (shardReads_length hreads)).mpr ⟨x, habsorb, hlast⟩
    · rw [hcounted', ← hz, tallied_add]
      exact congrArg (tallied stream · (unlisted z)) (Tally.of_append stream _ _ reading.2
        (outputs readings, tolds readings)).symm

theorem inspectShards_of_rows (hserves : Serves reader rows) {subranges : List BlockRange}
    {e x : Evidence} {readings : List Reading}
    (hreads : List.Forall₂ (ShardReads reader stream (rows stream)) subranges readings)
    (habsorb : absorb stream (subranges.flatMap (shardRows rows stream))
      (outputs readings, tolds readings) e = .ok x) :
    ∃ e', subranges.foldlM (inspectShard reader stream) e = .ok e' ∧
      unlisted e' = tallied stream (Tally.of stream (subranges.flatMap (shardRows rows stream))
        (outputs readings, tolds readings)) (unlisted x) := by
  induction hreads generalizing e x with
  | nil =>
    obtain rfl := Except.ok.inj (absorb_nil.symm.trans habsorb)
    exact ⟨e, rfl, (tallied_nil stream (unlisted e)).symm⟩
  | @cons subrange reading rest readings hread hrest ih =>
    rw [List.flatMap_cons] at habsorb
    obtain ⟨y, hfirst, hlater⟩ := (absorb_cons readings (shardReads_length hread)).mp habsorb
    obtain ⟨m, hm, hcounted⟩ := inspectShard_of_rows hserves hread hfirst
    have hgoes : absorb stream (rest.flatMap (shardRows rows stream))
        (outputs readings, tolds readings) (unlisted m) = .ok (tallied stream (Tally.of stream
          (shardRows rows stream subrange) reading.2) (unlisted x)) := by
      rw [hcounted, absorb_counts (tallied_countsOnly _ _), absorb_counts unlisted_countsOnly,
        hlater, map_ok, map_ok]
    rw [absorb_counts unlisted_countsOnly] at hgoes
    obtain ⟨z, hz, hunlisted⟩ := map_eq_ok.mp hgoes
    obtain ⟨e', he', hcounted'⟩ := ih hz
    refine ⟨e', by rw [List.foldlM_cons, hm, ok_bind, he'], ?_⟩
    rw [hcounted', hunlisted, tallied_add]
    exact congrArg (tallied stream · (unlisted x)) (Tally.of_append stream _ _ reading.2
      (outputs readings, tolds readings)).symm

/-! ## Spans -/

/-- **A stream read in two spans** leaves evidence that differs in its summaries alone. -/
theorem inspectStream_spans (hserves : Serves reader rows) {request : EvidenceRequest}
    {span span' : Nat} (hspan : 0 < span) (hspan' : 0 < span') {s t e : Evidence}
    (hsame : unlisted s = unlisted t)
    (h : inspectStream reader request span hspan s stream = .ok e) :
    ∃ f, inspectStream reader request span' hspan' t stream = .ok f ∧ unlisted e = unlisted f := by
  let range := request.selectedRange stream
  have hnonempty : range.fromBlockOrdinal ≤ range.toBlockOrdinal := range.nonempty.le
  obtain ⟨readings, x, hreads, habsorb, hcounted⟩ := inspectShards_eq_ok hserves h
  -- one session reads the whole range as the shards did
  have htimes : stream = .blockClock → (producedTimes (outputs readings)).Pairwise (· ≤ ·) := by
    rintro rfl
    exact absorb_times habsorb
  obtain ⟨final, hwhole, hend⟩ := whole_of_shards (hserves.ordered stream) le_rfl hnonempty le_rfl
    (stale_start range _) (fun _ => rfl) htimes
    (fun _ last hmem => absurd hmem (Option.not_mem_none last)) hreads
  -- and so do the shards of the other span
  have hshards : ∃ readings', List.Forall₂ (ShardReads reader stream (rows stream))
      (shards range span' hspan') readings' ∧
        (outputs readings, tolds readings) = (outputs readings', tolds readings') :=
    shards_of_whole (hserves.ordered stream) hnonempty le_rfl (stale_start range _) (fun _ => rfl)
      hwhole hend
  obtain ⟨readings', hreads', hsplit⟩ := hshards
  have hrows := shardsFrom_rows stream hserves range hspan hnonempty le_rfl
  have hrows' := shardsFrom_rows stream hserves range hspan' hnonempty le_rfl
  obtain ⟨y, hy, heq⟩ := absorb_unlisted hsame habsorb
  have habsorb' : absorb stream ((shards range span' hspan').flatMap (shardRows rows stream))
      (outputs readings', tolds readings') t = .ok y := by
    rw [shards, hrows', ← hrows, ← hsplit]
    exact hy
  obtain ⟨f, hf, hcounted'⟩ := inspectShards_of_rows hserves hreads' habsorb'
  refine ⟨f, hf, ?_⟩
  rw [hcounted, hcounted', heq, shards, shards, hrows, hrows', ← hsplit]

theorem inspectStreams_spans (hserves : Serves reader rows) {request : EvidenceRequest}
    {span span' : Nat} (hspan : 0 < span) (hspan' : 0 < span') {streams : List CapabilityStream}
    {s t e : Evidence} (hsame : unlisted s = unlisted t)
    (h : streams.foldlM (inspectStream reader request span hspan) s = .ok e) :
    ∃ f, streams.foldlM (inspectStream reader request span' hspan') t = .ok f ∧
      unlisted e = unlisted f := by
  induction streams generalizing s t with
  | nil =>
    obtain rfl := Except.ok.inj h
    exact ⟨t, rfl, hsame⟩
  | cons stream rest ih =>
    rw [List.foldlM_cons] at h
    obtain ⟨m, hm, hrest⟩ := bind_eq_ok.mp h
    obtain ⟨n, hn, hagree⟩ := inspectStream_spans hserves hspan hspan' hsame hm
    obtain ⟨f, hf, hlast⟩ := ih hagree hrest
    exact ⟨f, by rw [List.foldlM_cons, hn, ok_bind, hf], hlast⟩

theorem inspect_of_span (hserves : Serves reader rows) {request : EvidenceRequest}
    {span span' : Nat} (hspan : 0 < span) (hspan' : 0 < span') {e : Evidence}
    (h : inspect reader request span hspan = .ok e) :
    ∃ f, inspect reader request span' hspan' = .ok f ∧ unlisted e = unlisted f := by
  obtain ⟨evidence, hstreams, h⟩ := bind_eq_ok.mp (mapError_eq_ok.mp h)
  obtain ⟨hfinish, h⟩ := check_bind_eq_ok.mp h
  obtain rfl := Except.ok.inj h
  obtain ⟨f, hf, hagree⟩ := inspectStreams_spans hserves hspan hspan' rfl hstreams
  -- the last checks do not look at the summaries either
  have hfinish' : f.1.finish = .ok () := by
    have hunlisted : (unlisted evidence).1.finish = .ok () := hfinish
    rw [hagree] at hunlisted
    exact hunlisted
  refine ⟨f, mapError_eq_ok.mpr ?_, hagree⟩
  rw [hf, ok_bind, hfinish', ok_bind]

/-- **The shard span does not matter.**  Runs over one cut succeed in every span or in none, and
their evidence differs in the list of the summaries of the shards alone. -/
theorem inspect_spans (hserves : Serves reader rows) (request : EvidenceRequest) {span span' : Nat}
    (hspan : 0 < span) (hspan' : 0 < span') :
    (inspect reader request span hspan).toOption.map unlisted =
      (inspect reader request span' hspan').toOption.map unlisted := by
  rcases Option.eq_none_or_eq_some (inspect reader request span hspan).toOption with hnone | ⟨e, he⟩
  · rcases Option.eq_none_or_eq_some (inspect reader request span' hspan').toOption with
      hnone' | ⟨f, hf⟩
    · rw [hnone, hnone']
    · obtain ⟨e, he, -⟩ := inspect_of_span hserves hspan' hspan (toOption_eq_some hf)
      rw [he] at hnone
      cases hnone
  · obtain ⟨f, hf, hagree⟩ := inspect_of_span hserves hspan hspan' (toOption_eq_some he)
    rw [he, hf]
    exact congrArg some hagree

/-- **Neither the cut into batches nor the shard span matters**, and a session that refused a batch
goes on refusing, except that a sealed one returns its summary. -/
theorem cuts_and_spans :
    (∀ (scope : SessionScope) (fingerprint : ContentDigest) (cut cut' : List (List (List Cell))),
      cut.flatten = cut'.flatten →
      (∀ row ∈ cut.flatten, row.length = (RAW_COLUMNS scope.stream).length) →
      Session.readStream scope (cut.map (Session.batchOf scope fingerprint)) =
        Session.readStream scope (cut'.map (Session.batchOf scope fingerprint))) ∧
    (∀ (scope : SessionScope) (earlier later : List Session.Call) (batch : IndexedBatch)
      (fault : LiveFault),
      let reached := (Session.calls (Session.start scope, []) earlier).1
      (Session.call reached (.normalize batch)).2 = .error fault →
      ∀ result ∈ (Session.calls (Session.call reached (.normalize batch)).1 later).2,
        (∃ fault, result = .error fault) ∨
          ∃ summary ∈ reached.1.summary, result = .ok (.sealed summary)) ∧
    ∀ (reader : SourceReader) (rows : CapabilityStream → List Row) (request : EvidenceRequest)
      (span span' : Nat) (hspan : 0 < span) (hspan' : 0 < span'), Serves reader rows →
      (inspect reader request span hspan).toOption.map unlisted =
        (inspect reader request span' hspan').toOption.map unlisted := by
  refine ⟨?_, ?_, ?_⟩
  · intro scope fingerprint cut cut' hrows hwidth
    exact Session.readStream_cuts hrows hwidth
  · intro scope earlier later batch fault reached h
    exact Session.calls_after_refused earlier later h
  · intro reader rows request span span' hspan hspan' hserves
    exact inspect_spans hserves request hspan hspan'

end Shards

/-! ## A sample source -/

/-- A source that answers each query with one batch of the rows of its range. -/
def sampleServer (rows : CapabilityStream → List (List Cell)) : SourceReader where
  normalizer := sampleNormalizer
  capabilityId := fun _ => "pump"
  fingerprint := fun _ _ => ⟨0, false⟩
  batches := fun stream range =>
    let selected := (rows stream).filter fun cells => InBlocks range.fromBlockOrdinal
      range.toBlockOrdinal ⟨RAW_COLUMNS stream, cells⟩
    [⟨"pump", range, RAW_COLUMNS stream, selected, selected.length, some ⟨0, false⟩⟩]

def sampleStreamRows (stream : CapabilityStream) : List Row :=
  (sampleRows stream).map (Row.mk (RAW_COLUMNS stream))

instance inBlockOrder_decidable (rows : List Row) : Decidable (InBlockOrder rows) :=
  inferInstanceAs (Decidable (rows.Pairwise fun a b => ∀ x ∈ rowBlock a, ∀ y ∈ rowBlock b, x ≤ y))

theorem sampleStreamRows_ordered : ∀ stream, InBlockOrder (sampleStreamRows stream) := by
  intro stream
  cases stream <;> decide

theorem sampleRows_width : ∀ stream, ∀ row ∈ sampleRows stream,
    row.length = (RAW_COLUMNS stream).length := by
  intro stream
  cases stream <;> decide

theorem sampleServer_serves : Serves (sampleServer sampleRows) sampleStreamRows where
  answers := by
    intro stream subrange batch hbatch
    obtain rfl := List.mem_singleton.mp hbatch
    exact ⟨rfl, rfl, rfl, rfl,
      fun row hmem => sampleRows_width stream row (List.mem_of_mem_filter hmem), rfl⟩
  selects := by
    intro stream subrange
    rw [sampleStreamRows, rowsIn, List.filter_map]
    exact List.append_nil _
  ordered := sampleStreamRows_ordered

def sampleClockScope : SessionScope := ⟨sampleNormalizer, .blockClock, "pump", sampleCut⟩

theorem sampleClock_width : ∀ row ∈ [[sampleBlockCells 0 1000 1], [sampleSentinelCells 1]].flatten,
    row.length = (RAW_COLUMNS sampleClockScope.stream).length := by
  decide

def sampleSealedScope : SessionScope := ⟨sampleNormalizer, .pumpCurveLifecycle, "pump", sampleCut⟩

def sampleLateBatch : IndexedBatch := Session.batchOf sampleSealedScope ⟨0, false⟩ []

attribute [local instance] sampleOrderedHash in
/-- Two blocks in two batches or in one, a batch after the end, and shards of one block or of two. -/
theorem sampleServer_spans :
    Session.readStream sampleClockScope ([[sampleBlockCells 0 1000 1], [sampleSentinelCells 1]].map
        (Session.batchOf sampleClockScope ⟨0, false⟩)) =
      Session.readStream sampleClockScope ([[], [sampleBlockCells 0 1000 1, sampleSentinelCells 1]].map
        (Session.batchOf sampleClockScope ⟨0, false⟩)) ∧
    (∀ result ∈ (Session.calls (Session.call (Session.calls (Session.start sampleSealedScope, [])
        [.finish]).1 (.normalize sampleLateBatch)).1 [.finish]).2, (∃ fault, result = .error fault) ∨
      ∃ summary ∈ (Session.calls (Session.start sampleSealedScope, []) [.finish]).1.1.summary,
        result = .ok (.sealed summary)) ∧
    (inspect (sampleServer sampleRows) sampleCutRequest 1 Nat.one_pos).toOption.map unlisted =
      (inspect (sampleServer sampleRows) sampleCutRequest 2 sampleSpan_pos).toOption.map unlisted := by
  refine ⟨?_, ?_, ?_⟩
  · exact cuts_and_spans.1 sampleClockScope ⟨0, false⟩ [[sampleBlockCells 0 1000 1],
      [sampleSentinelCells 1]] [[], [sampleBlockCells 0 1000 1, sampleSentinelCells 1]] rfl
      sampleClock_width
  · exact cuts_and_spans.2.1 sampleSealedScope [.finish] [.finish] sampleLateBatch
      (.normalization .streamAlreadyFinished) rfl
  · exact cuts_and_spans.2.2 _ _ sampleCutRequest 1 2 Nat.one_pos sampleSpan_pos
      sampleServer_serves

attribute [local instance] sampleOrderedHash in
/-- A sealed session refuses a batch and then finishes again. -/
theorem sampleSealed_finishes : ¬ ∀ (scope : SessionScope) (earlier later : List Session.Call)
    (batch : IndexedBatch) (fault : LiveFault),
    let reached := (Session.calls (Session.start scope, []) earlier).1
    (Session.call reached (.normalize batch)).2 = .error fault →
    ∀ result ∈ (Session.calls (Session.call reached (.normalize batch)).1 later).2,
      ∃ fault, result = .error fault := by
  intro h
  have hagain := h sampleSealedScope [.finish] [.finish] sampleLateBatch
    (.normalization .streamAlreadyFinished) rfl _ List.mem_cons_self
  obtain ⟨fault, hfault⟩ := hagain
  cases hfault

end Source

end OnchainBacktest
