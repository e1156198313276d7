import OnchainBacktest.Source.RowReadings

/-!
# The cut of a stream into batches

A driver may cut the rows of a stream into batches as it likes.  A batch is a loop over its rows,
and a loop over the rows of several batches is the loop over their concatenation; all a batch
boundary leaves in the session is the query fingerprint, which no row and no summary looks at.
`Session.onto` is that change of a session between batches, and every row commutes with it.

The second half is about a call that was refused: it poisons a session that is not sealed yet.
-/

set_option autoImplicit false

namespace OnchainBacktest

namespace Source

open Checked

namespace Session

/-! ## Rows and batch boundaries -/

section Boundary

variable {ω : Type} {sink : ω → Observation → Except LiveFault ω}

/-- The progress of a batch, seen from a session that has had batches before. -/
def onto (fingerprint : Option ContentDigest) (before : List NormalizedRow)
    (progress : Progress ω) : Progress ω :=
  ({ progress.1 with queryFingerprint := fingerprint }, progress.2.1, before ++ progress.2.2)

/-- **A row does not look past the batch boundary.** -/
theorem consumeRow_onto (fingerprint : Option ContentDigest) (before : List NormalizedRow)
    (progress : Progress ω) (row : Row) :
    consumeRow sink (onto fingerprint before progress) row =
      (consumeRow sink progress row).map (onto fingerprint before) := by
  rw [consumeRow, consumeRow]
  show (normalizeRow progress.1.scope.normalizer.feeProfile progress.1.scope.stream
    progress.1.scope.coveredRange progress.1.rowState row >>= _) = _
  cases normalizeRow progress.1.scope.normalizer.feeProfile progress.1.scope.stream
      progress.1.scope.coveredRange progress.1.rowState row with
  | error fault => rfl
  | ok outcome =>
    rw [ok_bind, ok_bind]
    show (tellSink sink progress.2.1 outcome.2.2 >>= _) = _
    cases tellSink sink progress.2.1 outcome.2.2 with
    | error fault => rfl
    | ok told =>
      rw [ok_bind, ok_bind]
      refine congrArg Except.ok (Prod.ext rfl (Prod.ext rfl ?_))
      exact List.append_assoc _ _ _

theorem consumeRows_onto (fingerprint : Option ContentDigest) (before : List NormalizedRow)
    (rows : List Row) (progress : Progress ω) :
    rows.foldlM (consumeRow sink) (onto fingerprint before progress) =
      (rows.foldlM (consumeRow sink) progress).map (onto fingerprint before) :=
  foldlM_map (fun row _ s => consumeRow_onto fingerprint before s row) progress

/-- What a row leaves of the session it was consumed in. -/
theorem consumeRow_keeps {progress progress' : Progress ω} {row : Row}
    (h : consumeRow sink progress row = .ok progress') :
    progress'.1.scope = progress.1.scope ∧ progress'.1.failed = progress.1.failed ∧
      progress'.1.finished = progress.1.finished ∧ progress'.1.summary = progress.1.summary ∧
      progress'.1.queryFingerprint = progress.1.queryFingerprint := by
  obtain ⟨outcome, -, h⟩ := bind_eq_ok.mp h
  obtain ⟨told, -, h⟩ := bind_eq_ok.mp h
  obtain rfl := Except.ok.inj h
  exact ⟨rfl, rfl, rfl, rfl, rfl⟩

theorem consumeRows_keeps {rows : List Row} {progress progress' : Progress ω}
    (h : rows.foldlM (consumeRow sink) progress = .ok progress') :
    progress'.1.scope = progress.1.scope ∧ progress'.1.failed = progress.1.failed ∧
      progress'.1.finished = progress.1.finished ∧ progress'.1.summary = progress.1.summary ∧
      progress'.1.queryFingerprint = progress.1.queryFingerprint := by
  refine foldlM_keeps (P := fun p : Progress ω => p.1.scope = progress.1.scope ∧
    p.1.failed = progress.1.failed ∧ p.1.finished = progress.1.finished ∧
    p.1.summary = progress.1.summary ∧
    p.1.queryFingerprint = progress.1.queryFingerprint) ?_ ⟨rfl, rfl, rfl, rfl, rfl⟩ h
  intro row _ s s' hs hstep
  obtain ⟨hscope, hfailed, hfinished, hsummary, hfingerprint⟩ := consumeRow_keeps hstep
  exact ⟨hscope.trans hs.1, hfailed.trans hs.2.1, hfinished.trans hs.2.2.1,
    hsummary.trans hs.2.2.2.1, hfingerprint.trans hs.2.2.2.2⟩

end Boundary

/-! ## A stream cut into batches -/

/-- A batch of the session's own capability, range and columns. -/
def batchOf (scope : SessionScope) (fingerprint : ContentDigest) (rows : List (List Cell)) :
    IndexedBatch :=
  ⟨scope.capabilityId, scope.coveredRange, RAW_COLUMNS scope.stream, rows, rows.length,
    some fingerprint⟩

def record (told : List Observation) (observation : Observation) :
    Except LiveFault (List Observation) := .ok (told ++ [observation])

/-- Batch after batch, until one is refused. -/
def drive (state : Session × List Observation) :
    List IndexedBatch → (Session × List Observation) × Except LiveFault (List NormalizedRow)
  | [] => (state, .ok [])
  | batch :: rest =>
    match state.1.normalize state.2 batch with
    | (state', .error fault) => (state', .error fault)
    | (state', .ok normalized) =>
      ((drive state' rest).1, (drive state' rest).2.map (normalized.rows ++ ·))

/-- The normalized rows of a stream, what its sink is told and its summary. -/
def readStream [OrderedHash] (scope : SessionScope) (batches : List IndexedBatch) :
    Except LiveFault (List NormalizedRow × List Observation × PumpfunNormalizationSummary) := do
  let driven := drive (start scope, []) batches
  let rows ← driven.2
  let summary ← driven.1.1.finish.2
  .ok (rows, driven.1.2, summary)

section Cut

variable {scope : SessionScope} {fingerprint : ContentDigest}

/-- Neither sealed nor poisoned, and with no other fingerprint. -/
structure Ready (session : Session) (scope : SessionScope) (fingerprint : ContentDigest) : Prop where
  scope_eq : session.scope = scope
  finished : session.finished = false
  failed : session.failed = false
  summary : session.summary = none
  fingerprint : session.queryFingerprint = none ∨ session.queryFingerprint = some fingerprint

/-- The loop over rows, as a driver with a recording sink runs it. -/
def consumed (session : Session) (told : List Observation) (rows : List (List Cell)) :
    Except LiveFault (Progress (List Observation)) :=
  (rows.map (Row.mk (RAW_COLUMNS session.scope.stream))).foldlM (consumeRow record)
    (session, told, [])

/-- The rows after a batch are consumed in the session it leaves. -/
theorem consumed_append {session : Session} {told : List Observation}
    {rows rest : List (List Cell)} {progress : Progress (List Observation)}
    (h : session.consumed told rows = .ok progress) (fingerprint : Option ContentDigest) :
    session.consumed told (rows ++ rest) =
      (Session.consumed { progress.1 with queryFingerprint := fingerprint } progress.2.1 rest).map
        (onto progress.1.queryFingerprint progress.2.2) := by
  have hscope := (consumeRows_keeps h).1
  have hback : progress = onto progress.1.queryFingerprint progress.2.2
      ({ progress.1 with queryFingerprint := fingerprint }, progress.2.1, []) :=
    Prod.ext rfl (Prod.ext rfl (List.append_nil _).symm)
  have hsame : session.scope = progress.1.scope := hscope.symm
  rw [consumed] at h
  rw [consumed, List.map_append, foldlM_append, h, ok_bind, consumed]
  show List.foldlM (consumeRow record) progress
    (rest.map (Row.mk (RAW_COLUMNS session.scope.stream))) = _
  rw [hsame]
  conv_lhs => rw [hback]
  exact consumeRows_onto _ _ _ _

theorem validateBatch_batchOf {session : Session}
    (hready : session.Ready scope fingerprint) {rows : List (List Cell)}
    (hwidth : ∀ row ∈ rows, row.length = (RAW_COLUMNS scope.stream).length) :
    session.validateBatch (batchOf scope fingerprint rows) =
      .ok { session with queryFingerprint := some fingerprint } := by
  obtain ⟨rfl, -, -, -, hfingerprint⟩ := hready
  exact validateBatch_eq_ok.mpr
    ⟨⟨rfl, rfl, rfl, rfl, hwidth, ⟨fingerprint, rfl⟩, hfingerprint⟩, rfl⟩

/-- The rows of one batch. -/
theorem normalizeBatch_batchOf {session : Session} (hready : session.Ready scope fingerprint)
    (told : List Observation) {rows : List (List Cell)}
    (hwidth : ∀ row ∈ rows, row.length = (RAW_COLUMNS scope.stream).length) :
    session.normalizeBatch record told (batchOf scope fingerprint rows) =
      (session.consumed told rows).map (onto (some fingerprint) []) := by
  rw [normalizeBatch, validateBatch_batchOf hready hwidth, ok_bind, consumed, ← hready.scope_eq]
  exact consumeRows_onto (some fingerprint) []
    (rows.map (Row.mk (RAW_COLUMNS session.scope.stream))) (session, told, [])

theorem normalize_ok {session : Session} (hready : session.Ready scope fingerprint)
    {told : List Observation} {rows : List (List Cell)}
    (hwidth : ∀ row ∈ rows, row.length = (RAW_COLUMNS scope.stream).length)
    {progress : Progress (List Observation)} (h : session.consumed told rows = .ok progress) :
    session.normalize told (batchOf scope fingerprint rows) =
      (({ progress.1 with queryFingerprint := some fingerprint }, progress.2.1),
        .ok ⟨scope.capabilityId, scope.coveredRange, progress.2.2, fingerprint⟩) := by
  have htried : session.tryNormalize record told (batchOf scope fingerprint rows) =
      .ok ({ progress.1 with queryFingerprint := some fingerprint }, progress.2.1,
        ⟨scope.capabilityId, scope.coveredRange, progress.2.2, fingerprint⟩) := by
    rw [tryNormalize, normalizeBatch_batchOf hready told hwidth, h, ← hready.scope_eq]
    rfl
  rw [normalize, if_neg (by rw [hready.finished]; exact Bool.false_ne_true),
    if_neg (by rw [hready.failed]; exact Bool.false_ne_true)]
  change session.tryNormalize (fun told observation => .ok (told ++ [observation])) told
    (batchOf scope fingerprint rows) = _ at htried
  rw [htried]

theorem normalize_error {session : Session} (hready : session.Ready scope fingerprint)
    {told : List Observation} {rows : List (List Cell)}
    (hwidth : ∀ row ∈ rows, row.length = (RAW_COLUMNS scope.stream).length)
    {fault : LiveFault} (h : session.consumed told rows = .error fault) :
    session.normalize told (batchOf scope fingerprint rows) =
      (({ session with failed := true }, told), .error (caught scope.stream fault)) := by
  have htried : session.tryNormalize record told (batchOf scope fingerprint rows) =
      .error (caught scope.stream fault) := by
    rw [tryNormalize, normalizeBatch_batchOf hready told hwidth, h, ← hready.scope_eq]
    rfl
  rw [normalize, if_neg (by rw [hready.finished]; exact Bool.false_ne_true),
    if_neg (by rw [hready.failed]; exact Bool.false_ne_true)]
  change session.tryNormalize (fun told observation => .ok (told ++ [observation])) told
    (batchOf scope fingerprint rows) = _ at htried
  rw [htried]

theorem consumed_error_append {session : Session} {told : List Observation}
    {rows rest : List (List Cell)} {fault : LiveFault}
    (h : session.consumed told rows = .error fault) :
    session.consumed told (rows ++ rest) = .error fault := by
  rw [consumed] at h
  rw [consumed, List.map_append, foldlM_append, h, error_bind]

/-- **Batches in a row are the loop over all their rows**, but for the fingerprint they leave. -/
theorem drive_batches (cut : List (List (List Cell))) {session : Session}
    (hready : session.Ready scope fingerprint) (told : List Observation)
    (hwidth : ∀ row ∈ cut.flatten, row.length = (RAW_COLUMNS scope.stream).length) :
    (∃ progress left, session.consumed told cut.flatten = .ok progress ∧
      drive (session, told) (cut.map (batchOf scope fingerprint)) =
        (({ progress.1 with queryFingerprint := left }, progress.2.1), .ok progress.2.2)) ∨
    ∃ fault, session.consumed told cut.flatten = .error fault ∧
      (drive (session, told) (cut.map (batchOf scope fingerprint))).2 =
        .error (caught scope.stream fault) := by
  induction cut generalizing session told with
  | nil => exact .inl ⟨(session, told, []), session.queryFingerprint, rfl, rfl⟩
  | cons rows rest ih =>
    have hhead : ∀ row ∈ rows, row.length = (RAW_COLUMNS scope.stream).length := fun row hrow =>
      hwidth row (List.mem_flatten.mpr ⟨rows, List.mem_cons_self, hrow⟩)
    have htail : ∀ row ∈ rest.flatten, row.length = (RAW_COLUMNS scope.stream).length :=
      fun row hrow => hwidth row (List.flatten_cons ▸ List.mem_append_right _ hrow)
    rw [List.flatten_cons, List.map_cons, drive]
    cases hbatch : session.consumed told rows with
    | error fault =>
      refine .inr ⟨fault, consumed_error_append hbatch, ?_⟩
      rw [normalize_error hready hhead hbatch]
    | ok progress =>
      obtain ⟨hscope, hfailed, hfinished, hsummary, -⟩ := consumeRows_keeps hbatch
      have hnext : Ready { progress.1 with queryFingerprint := some fingerprint } scope
          fingerprint :=
        ⟨hscope.trans hready.scope_eq, hfinished.trans hready.finished,
          hfailed.trans hready.failed, hsummary.trans hready.summary, .inr rfl⟩
      rw [normalize_ok hready hhead hbatch, consumed_append hbatch (some fingerprint)]
      rcases ih hnext progress.2.1 htail with ⟨last, left, hlast, hdrive⟩ | ⟨fault, hlast, hdrive⟩
      · refine .inl ⟨onto progress.1.queryFingerprint progress.2.2 last, left, ?_, ?_⟩
        · rw [hlast]
          rfl
        · dsimp only
          rw [hdrive]
          rfl
      · refine .inr ⟨fault, ?_, ?_⟩
        · rw [hlast]
          rfl
        · dsimp only
          rw [hdrive]
          rfl

variable [OrderedHash]

theorem finish_fingerprint (session : Session) (left : Option ContentDigest) :
    Session.finish { session with queryFingerprint := left } =
      ({ session.finish.1 with queryFingerprint := left }, session.finish.2) := by
  have hcovered : Covered { session with queryFingerprint := left } ↔ session.Covered := Iff.rfl
  have hseal : summarize { session with queryFingerprint := left } = session.summarize := rfl
  rw [finish, finish, hseal]
  cases session with
  | mk scope queryFingerprint rawRows normalizedStream rowState failed finished summary =>
    cases failed with
    | true => rfl
    | false =>
      cases summary with
      | some summary => rfl
      | none =>
        rw [if_neg Bool.false_ne_true, if_neg Bool.false_ne_true]
        dsimp only
        by_cases h : Covered ⟨scope, queryFingerprint, rawRows, normalizedStream, rowState, false,
            finished, none⟩
        · rw [if_pos (hcovered.mpr h), if_pos h]
        · rw [if_neg (fun hleft => h (hcovered.mp hleft)), if_neg h]

/-- What is read of a stream is read of its rows. -/
theorem readStream_batches (cut : List (List (List Cell)))
    (hwidth : ∀ row ∈ cut.flatten, row.length = (RAW_COLUMNS scope.stream).length) :
    readStream scope (cut.map (batchOf scope fingerprint)) =
      ((start scope).consumed [] cut.flatten).mapError (caught scope.stream) >>= fun progress =>
        progress.1.finish.2 >>= fun summary => .ok (progress.2.2, progress.2.1, summary) := by
  have hready : (start scope).Ready scope fingerprint := ⟨rfl, rfl, rfl, rfl, .inl rfl⟩
  rw [readStream]
  rcases drive_batches cut hready [] hwidth with
    ⟨progress, left, hrows, hdrive⟩ | ⟨fault, hrows, hdrive⟩
  · rw [hrows, hdrive]
    dsimp only
    rw [ok_bind, finish_fingerprint]
    rfl
  · rw [hrows, hdrive]
    rfl

/-- **The cut does not matter**: what is read of the rows, and the code they are refused with. -/
theorem readStream_cuts {cut cut' : List (List (List Cell))} (hrows : cut.flatten = cut'.flatten)
    (hwidth : ∀ row ∈ cut.flatten, row.length = (RAW_COLUMNS scope.stream).length) :
    readStream scope (cut.map (batchOf scope fingerprint)) =
      readStream scope (cut'.map (batchOf scope fingerprint)) := by
  rw [readStream_batches cut hwidth, readStream_batches cut' (hrows ▸ hwidth), hrows]

end Cut

/-! ## After a refused call -/

/-- A call of a driver. -/
inductive Call
  | normalize (batch : IndexedBatch)
  | finish

/-- What a call returns. -/
inductive Response
  | normalized (batch : PumpfunNormalizedBatch)
  | sealed (summary : PumpfunNormalizationSummary)
  deriving DecidableEq

section Calls

variable [OrderedHash]

def call (state : Session × List Observation) :
    Call → (Session × List Observation) × Except LiveFault Response
  | .normalize batch =>
    ((state.1.normalize state.2 batch).1, (state.1.normalize state.2 batch).2.map .normalized)
  | .finish => ((state.1.finish.1, state.2), state.1.finish.2.map .sealed)

/-- Any calls, one after the other, whatever they return. -/
def calls (state : Session × List Observation) :
    List Call → (Session × List Observation) × List (Except LiveFault Response)
  | [] => (state, [])
  | c :: rest =>
    ((calls (call state c).1 rest).1, (call state c).2 :: (calls (call state c).1 rest).2)

omit [OrderedHash] in
theorem normalize_refused {session : Session} {told : List Observation} {batch : IndexedBatch}
    {fault : LiveFault} (h : (session.normalize told batch).2 = .error fault) :
    (session.finished = true ∧ (session.normalize told batch).1 = (session, told)) ∨
      (session.finished = false ∧ (session.normalize told batch).1.1.failed = true ∧
        (session.normalize told batch).1.1.finished = false) := by
  rw [normalize] at h ⊢
  by_cases hfinished : session.finished = true
  · rw [if_pos hfinished]
    exact .inl ⟨hfinished, rfl⟩
  · have hopen : session.finished = false := Bool.not_eq_true _ ▸ hfinished
    rw [if_neg hfinished] at h ⊢
    by_cases hfailed : session.failed = true
    · rw [if_pos hfailed]
      exact .inr ⟨hopen, hfailed, hopen⟩
    · rw [if_neg hfailed] at h ⊢
      cases htried : session.tryNormalize
          (fun told observation => .ok (told ++ [observation])) told batch with
      | error other => exact .inr ⟨hopen, rfl, hopen⟩
      | ok tried =>
        rw [htried] at h
        cases h

theorem call_of_failed {state : Session × List Observation} (hfailed : state.1.failed = true)
    (c : Call) : (call state c).1.1.failed = true ∧ ∃ fault, (call state c).2 = .error fault := by
  cases c with
  | normalize batch =>
    by_cases hfinished : state.1.finished = true
    · have hcall : state.1.normalize state.2 batch =
          (state, .error (.normalization .streamAlreadyFinished)) := if_pos hfinished
      rw [call, hcall]
      exact ⟨hfailed, _, rfl⟩
    · have hcall : state.1.normalize state.2 batch = (state, .error batchRefused) :=
        (if_neg hfinished).trans (if_pos hfailed)
      rw [call, hcall]
      exact ⟨hfailed, _, rfl⟩
  | finish =>
    have hcall : state.1.finish = (state.1, .error batchRefused) := if_pos hfailed
    rw [call, hcall]
    exact ⟨hfailed, _, rfl⟩

/-- **A poisoned session stays poisoned.** -/
theorem calls_of_failed (later : List Call) {state : Session × List Observation}
    (hfailed : state.1.failed = true) : ∀ result ∈ (calls state later).2, ∃ fault,
      result = .error fault := by
  induction later generalizing state with
  | nil =>
    intro result hresult
    exact absurd hresult List.not_mem_nil
  | cons c rest ih =>
    intro result hresult
    obtain ⟨hstill, hrefused⟩ := call_of_failed hfailed c
    rcases List.mem_cons.mp hresult with rfl | hresult
    · exact hrefused
    · exact ih hstill result hresult

/-- A session is sealed exactly when it has a summary. -/
def Consistent (session : Session) : Prop := session.finished = session.summary.isSome

omit [OrderedHash] in
theorem tryNormalize_seal {ω : Type} {sink : ω → Observation → Except LiveFault ω}
    {session : Session} {told : ω} {batch : IndexedBatch}
    {outcome : Session × ω × PumpfunNormalizedBatch}
    (h : session.tryNormalize sink told batch = .ok outcome) :
    outcome.1.finished = session.finished ∧ outcome.1.summary = session.summary := by
  obtain ⟨session', told', normalized⟩ := outcome
  obtain ⟨-, _, -, -, rfl, -⟩ := tryNormalize_eq_ok.mp h
  exact ⟨rfl, rfl⟩

theorem call_consistent {state : Session × List Observation} (h : state.1.Consistent) (c : Call) :
    (call state c).1.1.Consistent := by
  cases c with
  | normalize batch =>
    show (state.1.normalize state.2 batch).1.1.Consistent
    rw [normalize]
    split
    · exact h
    · split
      · exact h
      · split
        · rename_i session' told' normalized htried
          obtain ⟨hfinished, hsummary⟩ := tryNormalize_seal htried
          exact hfinished.trans (h.trans (congrArg Option.isSome hsummary.symm))
        · exact h
  | finish =>
    show state.1.finish.1.Consistent
    rw [finish]
    split
    · exact h
    · split
      · exact h
      · split
        · rfl
        · exact h

theorem calls_consistent (earlier : List Call) {state : Session × List Observation}
    (h : state.1.Consistent) : (calls state earlier).1.1.Consistent := by
  induction earlier generalizing state with
  | nil => exact h
  | cons c rest ih => exact ih (call_consistent h c)

/-- A sealed session refuses every batch and goes on returning its summary. -/
theorem calls_of_sealed (later : List Call) {state : Session × List Observation}
    {summary : PumpfunNormalizationSummary} (hfinished : state.1.finished = true)
    (hsummary : state.1.summary = some summary) : ∀ result ∈ (calls state later).2,
      (∃ fault, result = .error fault) ∨ result = .ok (.sealed summary) := by
  induction later with
  | nil =>
    intro result hresult
    exact absurd hresult List.not_mem_nil
  | cons c rest ih =>
    have hcall : (call state c).1 = state ∧
        ((∃ fault, (call state c).2 = .error fault) ∨ (call state c).2 = .ok (.sealed summary)) := by
      cases c with
      | normalize batch =>
        have hnormalize : state.1.normalize state.2 batch =
            (state, .error (.normalization .streamAlreadyFinished)) := if_pos hfinished
        rw [call, hnormalize]
        exact ⟨rfl, .inl ⟨_, rfl⟩⟩
      | finish =>
        by_cases hfailed : state.1.failed = true
        · have hfinish : state.1.finish = (state.1, .error batchRefused) := if_pos hfailed
          rw [call, hfinish]
          exact ⟨rfl, .inl ⟨_, rfl⟩⟩
        · have hfinish : state.1.finish = (state.1, .ok summary) := by
            rw [finish, if_neg hfailed, hsummary]
          rw [call, hfinish]
          exact ⟨rfl, .inr rfl⟩
    intro result hresult
    rw [calls, hcall.1] at hresult
    rcases List.mem_cons.mp hresult with rfl | hresult
    · exact hcall.2
    · exact ih result hresult

/-- **After a refused batch** every later call is refused, unless the session was sealed before: then
it goes on returning the summary it was sealed with. -/
theorem calls_after_refused {scope : SessionScope} (earlier later : List Call)
    {batch : IndexedBatch} {fault : LiveFault}
    (h : (call (calls (start scope, []) earlier).1 (.normalize batch)).2 = .error fault) :
    ∀ result ∈ (calls (call (calls (start scope, []) earlier).1 (.normalize batch)).1 later).2,
      (∃ fault, result = .error fault) ∨
        ∃ summary ∈ (calls (start scope, []) earlier).1.1.summary,
          result = .ok (.sealed summary) := by
  have hconsistent : (calls (start scope, []) earlier).1.1.Consistent := calls_consistent earlier rfl
  obtain ⟨state, hstate⟩ : ∃ state, state = (calls (start scope, []) earlier).1 := ⟨_, rfl⟩
  rw [← hstate] at h hconsistent ⊢
  have hrefused : (state.1.normalize state.2 batch).2 = .error fault := by
    have hmapped : (state.1.normalize state.2 batch).2.map Response.normalized = .error fault := h
    cases hresult : (state.1.normalize state.2 batch).2 with
    | error other =>
      rw [hresult] at hmapped
      exact congrArg Except.error (Except.error.inj hmapped)
    | ok normalized =>
      rw [hresult] at hmapped
      cases hmapped
  intro result hresult
  rcases normalize_refused hrefused with ⟨hfinished, hsame⟩ | ⟨-, hfailed, -⟩
  · obtain ⟨summary, hsummary⟩ := Option.isSome_iff_exists.mp (hconsistent.symm.trans hfinished)
    have hsealed : (call state (.normalize batch)).1 = state := hsame
    rw [hsealed] at hresult
    rcases calls_of_sealed later hfinished hsummary result hresult with hfault | hagain
    · exact .inl hfault
    · exact .inr ⟨summary, hsummary, hagain⟩
  · exact .inl (calls_of_failed later hfailed result hresult)

end Calls

end Session

end Source

end OnchainBacktest
