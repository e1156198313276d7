import OnchainBacktest.Jobs.ProgressReader

/-!
# Progress framing

What the supervisor accepts of what a child has written, however the reads and the drains cut it
(`progress_framing`).

The drops a reader reports are those of the bytes, whatever the cut, but for one kind: a drain
returns no more than a fixed number of events and counts the older ones as dropped, so the same
bytes read in more drains lose fewer of them (`drops_depend_on_drains`).
-/

set_option autoImplicit false

namespace OnchainBacktest

namespace Jobs

open Checked

/-! ## The lines that are accepted -/

/-- A line is the canonical frame of an event of the attempt. -/
def IsFrame (attemptId : AttemptId) (line : List UInt8) (event : ProgressEvent) : Prop :=
  event.attemptId = attemptId ∧
    Document.canonicalJsonBytes (.object event.document) = some line

/-- The events that are to be accepted of some lines, when the last accepted one had the sequence
`last`: those of the canonical frames of the attempt that are not too long and whose sequence is
beyond that of every event accepted before. -/
inductive Accepted (attemptId : AttemptId) : Int → List (List UInt8) → List ProgressEvent → Prop
  | nil (last : Int) : Accepted attemptId last [] []
  | accept {last : Int} {line : List UInt8} {lines : List (List UInt8)} {event : ProgressEvent}
      {events : List ProgressEvent} (hframe : IsFrame attemptId line event)
      (hshort : line.length ≤ maxFrameBytes) (hnew : last < event.sequence)
      (hrest : Accepted attemptId event.sequence lines events) :
      Accepted attemptId last (line :: lines) (event :: events)
  | skip {last : Int} {line : List UInt8} {lines : List (List UInt8)} {events : List ProgressEvent}
      (hline : ∀ event, IsFrame attemptId line event → line.length ≤ maxFrameBytes →
        ¬ last < event.sequence)
      (hrest : Accepted attemptId last lines events) :
      Accepted attemptId last (line :: lines) events

theorem IsFrame.ne_nil {attemptId : AttemptId} {line : List UInt8} {event : ProgressEvent}
    (h : IsFrame attemptId line event) : line ≠ [] := by
  obtain ⟨written, hwrite, rfl⟩ := Option.map_eq_some_iff.mp h.2
  obtain ⟨c, cs, rfl, -⟩ := Document.head_write hwrite
  rw [String.toByteArray_ofList, List.utf8Encode, List.data_toByteArray, List.toList_toArray,
    List.flatMap_cons]
  exact List.append_ne_nil_of_left_ne_nil String.utf8EncodeChar_ne_nil _

theorem frameOf_eq_some_iff {attemptId : AttemptId} {line : List UInt8} {event : ProgressEvent} :
    frameOf attemptId line = some event ↔
      IsFrame attemptId line event ∧ line.length ≤ maxFrameBytes := by
  rw [frameOf]
  constructor
  · intro h
    split_ifs at h with hline
    rw [isFrameLine_eq_true_iff, not_or] at hline
    exact ⟨decode_eq_some_iff.mp h, by omega⟩
  · rintro ⟨hframe, hshort⟩
    rw [if_pos (isFrameLine_eq_true_iff.mpr (not_or.mpr ⟨hframe.ne_nil, by omega⟩))]
    exact decode_eq_some_iff.mpr hframe

theorem acceptedOf_cons_none {attemptId : AttemptId} {line : List UInt8}
    (h : frameOf attemptId line = none) (last : Int) (lines : List (List UInt8)) :
    acceptedOf attemptId last (line :: lines) = acceptedOf attemptId last lines := by
  rw [acceptedOf, List.filterMap_cons, h]
  rfl

theorem acceptedOf_cons_some {attemptId : AttemptId} {line : List UInt8} {event : ProgressEvent}
    (h : frameOf attemptId line = some event) (last : Int) (lines : List (List UInt8)) :
    acceptedOf attemptId last (line :: lines)
      = if event.sequence ≤ last then acceptedOf attemptId last lines
        else event :: acceptedOf attemptId event.sequence lines := by
  rw [acceptedOf, List.filterMap_cons, h, rising]
  rfl

/-- There is one list of events to accept of some lines. -/
theorem accepted_iff {attemptId : AttemptId} {last : Int} {lines : List (List UInt8)}
    {events : List ProgressEvent} :
    Accepted attemptId last lines events ↔ events = acceptedOf attemptId last lines := by
  constructor
  · intro h
    induction h with
    | nil last => rfl
    | accept hframe hshort hnew _ ih =>
      rw [acceptedOf_cons_some (frameOf_eq_some_iff.mpr ⟨hframe, hshort⟩),
        if_neg (not_le.mpr hnew), ih]
    | @skip last line lines events hline _ ih =>
      cases hof : frameOf attemptId line with
      | none => rw [acceptedOf_cons_none hof, ih]
      | some event =>
        obtain ⟨hframe, hshort⟩ := frameOf_eq_some_iff.mp hof
        rw [acceptedOf_cons_some hof, if_pos (not_lt.mp (hline event hframe hshort)), ih]
  · rintro rfl
    induction lines generalizing last with
    | nil => exact .nil last
    | cons line lines ih =>
      cases hof : frameOf attemptId line with
      | none =>
        rw [acceptedOf_cons_none hof]
        refine .skip (fun event hframe hshort => ?_) ih
        rw [frameOf_eq_some_iff.mpr ⟨hframe, hshort⟩] at hof
        exact absurd hof (by simp)
      | some event =>
        obtain ⟨hframe, hshort⟩ := frameOf_eq_some_iff.mp hof
        rw [acceptedOf_cons_some hof]
        split_ifs with hold
        · refine .skip (fun other hother hshort' => ?_) ih
          rw [frameOf_eq_some_iff.mpr ⟨hother, hshort'⟩] at hof
          obtain rfl := Option.some.inj hof
          exact not_lt.mpr hold
        · exact .accept hframe hshort (not_le.mp hold) ih

/-- Lines that are no frames hide nothing. -/
theorem acceptedOf_garbage {attemptId : AttemptId} {garbage : List (List UInt8)}
    (h : ∀ line ∈ garbage, ∀ event, IsFrame attemptId line event → maxFrameBytes < line.length)
    (last : Int) (before after : List (List UInt8)) :
    acceptedOf attemptId last (before ++ garbage ++ after)
      = acceptedOf attemptId last (before ++ after) := by
  have hnone : garbage.filterMap (frameOf attemptId) = [] := by
    rw [List.filterMap_eq_nil_iff]
    intro line hline
    by_contra hsome
    obtain ⟨event, hevent⟩ := Option.ne_none_iff_exists'.mp hsome
    obtain ⟨hframe, hshort⟩ := frameOf_eq_some_iff.mp hevent
    have hlong := h line hline event hframe
    omega
  rw [acceptedOf, acceptedOf, List.filterMap_append, List.filterMap_append, hnone, List.append_nil,
    ← List.filterMap_append]

/-! ## The buffer -/

namespace ProgressPipeReader

/-- How long the buffer gets while a chunk is fed. -/
def bufferPeak (reader : ProgressPipeReader) (chunk : List UInt8) : Nat :=
  if reader.discardUntilNewline = true then
    match find chunk with
    | none => reader.buffer.length
    | some n => (reader.buffer ++ chunk.drop (n + 1)).length
  else (reader.buffer ++ chunk).length

/-- How long the buffer gets with each chunk of the loop of a drain, and how long the chunk is. -/
def readLoopPeaks (reader : ProgressPipeReader) (events : List ProgressEvent) (readBytes : Nat) :
    List ReadResult → List (Nat × Nat)
  | [] => []
  | result :: results =>
    if readBytes < maxDrainBytes then
      match result with
      | .wouldBlock => []
      | .failed => []
      | .data chunk =>
        if chunk = [] then []
        else
          (reader.bufferPeak chunk, chunk.length) ::
            ((reader.feed chunk).1.foldl offer ((reader.feed chunk).2, events)).1.readLoopPeaks
              ((reader.feed chunk).1.foldl offer ((reader.feed chunk).2, events)).2
              (readBytes + chunk.length) results
    else []

/-- The same over all drains. -/
def drainAllPeaks (reader : ProgressPipeReader) : List (List ReadResult) → List (Nat × Nat)
  | [] => []
  | results :: drains =>
    (if reader.closed = true then [] else reader.readLoopPeaks [] 0 results)
      ++ (reader.drain results).2.drainAllPeaks drains

end ProgressPipeReader

theorem length_buffer_readerAt (attemptId : AttemptId) (last : Int) (rest : List UInt8)
    (dropped : Nat) : (readerAt attemptId last rest dropped).buffer.length ≤ maxFrameBytes := by
  by_cases hlong : maxFrameBytes < rest.length
  · simp [readerAt_long hlong]
  · rw [readerAt_short hlong]
    exact not_lt.mp hlong

theorem bufferPeak_le {reader : ProgressPipeReader} (h : reader.buffer.length ≤ maxFrameBytes)
    (chunk : List UInt8) : reader.bufferPeak chunk ≤ maxFrameBytes + chunk.length := by
  unfold ProgressPipeReader.bufferPeak
  split_ifs
  · cases find chunk with
    | none => exact h.trans (Nat.le_add_right _ _)
    | some n =>
      simp only [List.length_append, List.length_drop]
      omega
  · rw [List.length_append]
    omega

theorem readLoopPeaks_le {attemptId : AttemptId} (results : List ReadResult) {last : Int}
    {rest : List UInt8} {dropped : Nat} (hrest : newline ∉ rest) (events : List ProgressEvent)
    (readBytes : Nat) :
    ∀ p ∈ (readerAt attemptId last rest dropped).readLoopPeaks events readBytes results,
      p.1 ≤ maxFrameBytes + p.2 := by
  induction results generalizing last rest dropped events readBytes with
  | nil => simp [ProgressPipeReader.readLoopPeaks]
  | cons result results ih =>
    by_cases hread : readBytes < maxDrainBytes
    · cases result with
      | wouldBlock => simp [ProgressPipeReader.readLoopPeaks, hread]
      | failed => simp [ProgressPipeReader.readLoopPeaks, hread]
      | data chunk =>
        by_cases hempty : chunk = []
        · simp [ProgressPipeReader.readLoopPeaks, hread, hempty]
        · obtain ⟨fed, hfeed, -⟩ := foldl_offer_feed attemptId last hrest dropped events chunk
          simp only [ProgressPipeReader.readLoopPeaks, if_pos hread, if_neg hempty]
          rw [hfeed]
          intro p hp
          rcases List.mem_cons.mp hp with rfl | hp
          · exact bufferPeak_le (length_buffer_readerAt attemptId last rest dropped) chunk
          · exact ih (Lines.notMem_split newline hrest chunk) _ _ p hp
    · simp [ProgressPipeReader.readLoopPeaks, hread]

theorem drainAllPeaks_closed {reader : ProgressPipeReader} (h : reader.closed = true)
    (drains : List (List ReadResult)) : reader.drainAllPeaks drains = [] := by
  induction drains with
  | nil => rfl
  | cons results drains ih =>
    have hdrain : reader.drain results = (([], 0), reader) := by
      rw [ProgressPipeReader.drain, if_pos h]
    rw [ProgressPipeReader.drainAllPeaks, if_pos h, hdrain]
    exact ih

theorem drainAllPeaks_le {attemptId : AttemptId} (drains : List (List ReadResult)) {last : Int}
    {rest : List UInt8} (hrest : newline ∉ rest) :
    ∀ p ∈ (readerAt attemptId last rest 0).drainAllPeaks drains, p.1 ≤ maxFrameBytes + p.2 := by
  induction drains generalizing last rest with
  | nil => simp [ProgressPipeReader.drainAllPeaks]
  | cons results drains ih =>
    obtain ⟨reported, next, hdrain, -, hclosed, hopen⟩ :=
      drain_readerAt attemptId last hrest results
    have hnot : ¬ (readerAt attemptId last rest 0).closed = true := by simp [readerAt]
    rw [ProgressPipeReader.drainAllPeaks, if_neg hnot, hdrain]
    intro p hp
    rcases List.mem_append.mp hp with hp | hp
    · exact readLoopPeaks_le results hrest [] 0 p hp
    · cases hended : reachesEof 0 results with
      | true =>
        rw [drainAllPeaks_closed (hclosed hended)] at hp
        exact absurd hp (by simp)
      | false =>
        rw [hopen hended] at hp
        exact ih (Lines.notMem_split newline hrest (bytesRead 0 results)) p hp

/-! ## Framing -/

/-- The lines a stream loses, however it is cut: those that are not accepted, one that is too long
already, and at the end of the pipe what is left of a line. -/
def lost (attemptId : AttemptId) (bytes : List UInt8) (ended : Bool) : Nat :=
  (Lines.terminated newline bytes).length
    - (acceptedOf attemptId 0 (Lines.terminated newline bytes)).length
    + overlong (Lines.remainder newline bytes) + cutOff ended (Lines.remainder newline bytes)

/-- The sum of what all drains of a fresh reader report. -/
def reportedOf (attemptId : AttemptId) (drains : List (List ReadResult)) : Nat :=
  (((ProgressPipeReader.start attemptId).drainAll drains).1.map Prod.snd).sum

/-- **Progress framing.**  Over all drains, whatever the pipe held and however the reads cut it, the
reader accepts the events of the complete lines that are canonical frames of the attempt, not too
long and beyond every event before.  A drain returns the newest it accepted and counts the others
as dropped; the rest of the drops depend on the bytes and on the end of the pipe alone.  The buffer
never holds more than a frame and the chunk, and lines that are no frames hide nothing. -/
theorem progress_framing (attemptId : AttemptId) (drains : List (List ReadResult)) :
    (∃ accepted : List (List ProgressEvent),
      Accepted attemptId 0 (Lines.terminated newline (bytesDrained drains)) accepted.flatten ∧
      ((ProgressPipeReader.start attemptId).drainAll drains).1.map Prod.fst = accepted.map newest ∧
      reportedOf attemptId drains
        = lost attemptId (bytesDrained drains) (drainsEnd drains)
          + (accepted.map fun events => events.length - maxEventsPerDrain).sum) ∧
    (∀ p ∈ (ProgressPipeReader.start attemptId).drainAllPeaks drains, p.1 ≤ maxFrameBytes + p.2) ∧
    (∀ before garbage after : List (List UInt8), ∀ events : List ProgressEvent,
      (∀ line ∈ garbage, ∀ event, IsFrame attemptId line event → maxFrameBytes < line.length) →
      (Accepted attemptId 0 (before ++ garbage ++ after) events ↔
        Accepted attemptId 0 (before ++ after) events)) := by
  refine ⟨?_, ?_, ?_⟩
  · have hstart : newline ∉ ([] : List UInt8) := by simp
    obtain ⟨accepted, hreturned, hflatten, htotal⟩ := drainAll_readerAt attemptId drains 0 hstart
    refine ⟨accepted, accepted_iff.mpr hflatten, hreturned, ?_⟩
    have hle := length_acceptedOf_le attemptId 0 (Lines.terminated newline (bytesDrained drains))
    have hzero : overlong [] = 0 := rfl
    rw [hzero] at htotal
    rw [reportedOf, readerAt_start, lost, Lines.remainder]
    rw [Lines.terminated] at hle ⊢
    omega
  · rw [readerAt_start]
    exact drainAllPeaks_le drains (by simp)
  · intro before garbage after events hgarbage
    rw [accepted_iff, accepted_iff, acceptedOf_garbage hgarbage]

/-! ## The bytes of an event -/

/-- The bytes of an event are a line, and the line is its frame. -/
theorem payload_eq (event : ProgressEvent) :
    ∃ line, event.payload = line ++ [newline] ∧ newline ∉ line ∧
      IsFrame event.attemptId line event := by
  obtain ⟨line, hline⟩ := canonicalJsonBytes_document event
  refine ⟨line, ?_, Document.newline_notMem_canonicalJsonBytes hline, rfl, hline⟩
  rw [ProgressEvent.payload, hline]
  rfl

/-- The lines of some frames, and what they leave. -/
theorem split_payloads {attemptId : AttemptId} {events : List ProgressEvent}
    (hattempt : ∀ event ∈ events, event.attemptId = attemptId)
    (hshort : ∀ event ∈ events, event.payload.length ≤ maxFrameBytes) (last : Int) :
    (Lines.split newline [] (events.flatMap ProgressEvent.payload)).2 = [] ∧
    (Lines.split newline [] (events.flatMap ProgressEvent.payload)).1.length = events.length ∧
    acceptedOf attemptId last (Lines.split newline [] (events.flatMap ProgressEvent.payload)).1
      = rising last events := by
  induction events generalizing last with
  | nil => exact ⟨rfl, rfl, rfl⟩
  | cons event events ih =>
    obtain ⟨line, hpayload, hnewline, hframe⟩ := payload_eq event
    have hlength := hshort event (by simp)
    rw [hpayload, List.length_append] at hlength
    have hof : frameOf attemptId line = some event :=
      frameOf_eq_some_iff.mpr ⟨hattempt event (by simp) ▸ hframe, by omega⟩
    have hrest := ih (fun e he => hattempt e (by simp [he])) (fun e he => hshort e (by simp [he]))
    rw [List.flatMap_cons, hpayload, List.append_assoc, List.singleton_append,
      Lines.split_line newline hnewline, List.nil_append]
    refine ⟨(hrest last).1, by simp [(hrest last).2.1], ?_⟩
    dsimp only
    rw [acceptedOf_cons_some hof, rising]
    split_ifs
    · exact (hrest last).2.2
    · rw [(hrest event.sequence).2.2]

/-! ## One drain or two -/

/-- What is read when every read finds one frame. -/
theorem bytesRead_payloads {events : List ProgressEvent} (readBytes : Nat)
    (h : readBytes + (events.flatMap ProgressEvent.payload).length ≤ maxDrainBytes) :
    bytesRead readBytes (events.map fun event => .data event.payload)
        = events.flatMap ProgressEvent.payload ∧
      reachesEof readBytes (events.map fun event => .data event.payload) = false := by
  induction events generalizing readBytes with
  | nil => exact ⟨rfl, rfl⟩
  | cons event events ih =>
    have hne : event.payload ≠ [] := by simp [ProgressEvent.payload]
    have hpos := List.length_pos_iff.mpr hne
    rw [List.flatMap_cons, List.length_append] at h
    obtain ⟨hbytes, hended⟩ := ih (readBytes + event.payload.length) (by omega)
    have hread : readBytes < maxDrainBytes := by omega
    simp only [List.map_cons, bytesRead, reachesEof, if_pos hread, if_neg hne, hbytes, hended,
      List.flatMap_cons, and_self]

/-- A drain that finds whole frames in sequence returns the newest and counts the others. -/
theorem drain_payloads {attemptId : AttemptId} {last : Int} {events : List ProgressEvent}
    (hattempt : ∀ event ∈ events, event.attemptId = attemptId)
    (hshort : ∀ event ∈ events, event.payload.length ≤ maxFrameBytes)
    (hfits : (events.flatMap ProgressEvent.payload).length ≤ maxDrainBytes)
    (hrising : rising last events = events) :
    (readerAt attemptId last [] 0).drain (events.map fun event => .data event.payload)
      = ((newest events, events.length - maxEventsPerDrain),
        readerAt attemptId (top last events) [] 0) := by
  obtain ⟨hbytes, hended⟩ := bytesRead_payloads 0 ((Nat.zero_add _).trans_le hfits)
  obtain ⟨hleft, hlines, haccepted⟩ := split_payloads hattempt hshort last
  have hstart : newline ∉ ([] : List UInt8) := by simp
  obtain ⟨reported, next, hdrain, hcount, -, hopen⟩ := drain_readerAt attemptId
    last hstart (events.map fun event => ReadResult.data event.payload)
  rw [hbytes, haccepted, hrising] at hdrain
  rw [hbytes, hended, hleft, hlines, haccepted, hrising] at hcount
  have hnext := hopen hended
  rw [hbytes, hleft, haccepted, hrising] at hnext
  have hreported : reported = events.length - maxEventsPerDrain := by
    have hzero : overlong [] = 0 := rfl
    have hcut : cutOff false [] = 0 := by simp [cutOff]
    omega
  rw [hdrain, hreported, hnext]

/-- Events whose sequence goes on are all kept. -/
theorem rising_eq_self {last : Int} {events : List ProgressEvent}
    (hlast : ∀ event ∈ events, last < event.sequence)
    (hpairs : events.Pairwise fun a b => a.sequence < b.sequence) :
    rising last events = events := by
  induction events generalizing last with
  | nil => rfl
  | cons event events ih =>
    rw [List.pairwise_cons] at hpairs
    rw [rising, if_neg (not_le.mpr (hlast event (by simp))), ih hpairs.1 hpairs.2]

theorem sampleEvent_checked (n : Fin 33) :
    checkProgressEvent (n.val + 1) none none = .ok () := by
  have hrange : ¬ ¬ (1 ≤ (n.val : Int) + 1 ∧ (n.val : Int) + 1 ≤ 2 ^ 63 - 1) := by omega
  rw [checkProgressEvent, refuseIf_of_not hrange]
  rfl

/-- The events of a sample attempt, in sequence. -/
def sampleEvent (n : Fin 33) : ProgressEvent :=
  { attemptId := ⟨"attempt"⟩
    sequence := n.val + 1
    level := .info
    stage := .runningBacktest
    completedUnits := none
    totalUnits := none
    checked := sampleEvent_checked n }

/-- One event more than a drain returns. -/
def sampleEvents : List ProgressEvent := (List.finRange 33).map sampleEvent

/-- Every read finds one frame of the sample. -/
def sampleReads (events : List ProgressEvent) : List ReadResult :=
  events.map fun event => .data event.payload

theorem length_canonicalJsonBytes_le {d : Document} {written : List Char} {bytes : List UInt8}
    (hwrite : d.write = some written) (h : d.canonicalJsonBytes = some bytes) :
    bytes.length ≤ 4 * written.length := by
  rw [Document.canonicalJsonBytes, hwrite] at h
  obtain rfl := Option.some.inj h
  dsimp only
  rw [String.toByteArray_ofList, List.utf8Encode, List.data_toByteArray, List.toList_toArray]
  clear h hwrite
  induction written with
  | nil => simp
  | cons c written ih =>
    have hsize := Char.utf8Size_le_four c
    rw [List.flatMap_cons, List.length_append, String.length_utf8EncodeChar, List.length_cons]
    omega

/-- The texts of the sample's frames, by their lengths. -/
theorem sampleTexts_length :
    (Document.quoted "attempt_id").length = 12 ∧ (Document.quoted "attempt").length = 9 ∧
    (Document.quoted "completed_units").length = 17 ∧ (Document.quoted "level").length = 7 ∧
    (Document.quoted "INFO").length = 6 ∧ (Document.quoted "schema").length = 8 ∧
    (Document.quoted frameSchema).length = 28 ∧ (Document.quoted "sequence").length = 10 ∧
    (Document.quoted "stage").length = 7 ∧ (Document.quoted "RUNNING_BACKTEST").length = 18 ∧
    (Document.quoted "total_units").length = 13 ∧ "null".toList.length = 4 := by
  decide

theorem sampleSequence_length (n : Fin 33) :
    (toString ((n.val : Int) + 1)).toList.length ≤ 2 := by
  revert n
  decide

theorem sampleEvents_short : ∀ event ∈ sampleEvents, event.payload.length ≤ 700 := by
  intro event hevent
  obtain ⟨n, -, rfl⟩ := List.mem_map.mp hevent
  obtain ⟨line, hline⟩ := canonicalJsonBytes_document (sampleEvent n)
  obtain ⟨written, hwrite, -⟩ := Option.map_eq_some_iff.mp hline
  have hbytes := length_canonicalJsonBytes_le hwrite hline
  have hsequence := sampleSequence_length n
  obtain ⟨h₁, h₂, h₃, h₄, h₅, h₆, h₇, h₈, h₉, h₁₀, h₁₁, h₁₂⟩ := sampleTexts_length
  have hwritten : written.length ≤ 170 := by
    simp only [ProgressEvent.document, sampleEvent, Document.write, Document.writeFields,
      Document.optionalInteger, Option.elim, ProgressLevel.value, ProgressStage.value,
      Option.bind_eq_bind, Option.bind_some, Option.some.injEq] at hwrite
    rw [← hwrite]
    simp only [Document.joined, List.length_cons, List.length_append, List.length_nil, h₁, h₂, h₃,
      h₄, h₅, h₆, h₇, h₈, h₉, h₁₀, h₁₁, h₁₂]
    omega
  rw [ProgressEvent.payload, hline, Option.getD_some, List.length_append, List.length_singleton]
  omega

theorem sampleEvents_length : sampleEvents.length = 33 := by
  rw [sampleEvents, List.length_map, List.length_finRange]

theorem sampleEvents_attempt : ∀ event ∈ sampleEvents, event.attemptId = ⟨"attempt"⟩ := by
  intro event hevent
  obtain ⟨n, -, rfl⟩ := List.mem_map.mp hevent
  rfl

theorem sampleEvents_pairwise :
    sampleEvents.Pairwise fun a b => a.sequence < b.sequence := by
  rw [sampleEvents, List.pairwise_map]
  refine (List.pairwise_lt_finRange 33).imp fun {a b} hlt => ?_
  show (a.val : Int) + 1 < b.val + 1
  have hval : a.val < b.val := hlt
  omega

theorem top_lt {last bound : Int} {events : List ProgressEvent} (hlast : last < bound)
    (h : ∀ event ∈ events, event.sequence < bound) : top last events < bound := by
  induction events generalizing last with
  | nil => exact hlast
  | cons event events ih => exact ih (h event (by simp)) fun e he => h e (by simp [he])

theorem length_flatMap_payload_le {bound : Nat} (events : List ProgressEvent)
    (h : ∀ event ∈ events, event.payload.length ≤ bound) :
    (events.flatMap ProgressEvent.payload).length ≤ bound * events.length := by
  induction events with
  | nil => simp
  | cons event events ih =>
    have hone := h event (by simp)
    have hmore := ih fun e he => h e (by simp [he])
    rw [List.flatMap_cons, List.length_append, List.length_cons, Nat.mul_add, Nat.mul_one]
    omega

/-- Thirty-three short frames in sequence, in one drain or with the last one in a drain of its
own: the bytes are the same, the drops are not. -/
theorem reportedOf_split {attemptId : AttemptId} {events : List ProgressEvent}
    (hattempt : ∀ event ∈ events, event.attemptId = attemptId)
    (hshort : ∀ event ∈ events, event.payload.length ≤ 700)
    (hpositive : ∀ event ∈ events, 0 < event.sequence)
    (hpairs : events.Pairwise fun a b => a.sequence < b.sequence) (hlength : events.length = 33) :
    (bytesDrained [sampleReads events]
      = bytesDrained [sampleReads (events.take 32), sampleReads (events.drop 32)]) ∧
    (drainsEnd [sampleReads events]
      = drainsEnd [sampleReads (events.take 32), sampleReads (events.drop 32)]) ∧
    reportedOf attemptId [sampleReads events] = 1 ∧
    reportedOf attemptId [sampleReads (events.take 32), sampleReads (events.drop 32)] = 0 := by
  have hfits : ∀ part : List ProgressEvent, part.Sublist events →
      (part.flatMap ProgressEvent.payload).length ≤ maxDrainBytes := by
    intro part hpart
    have hbytes := length_flatMap_payload_le part fun event hevent =>
      hshort event (hpart.subset hevent)
    have hle := hpart.length_le
    have hlimit : maxDrainBytes = 32768 := rfl
    omega
  have hread : ∀ part : List ProgressEvent, part.Sublist events →
      bytesRead 0 (sampleReads part) = part.flatMap ProgressEvent.payload ∧
        reachesEof 0 (sampleReads part) = false := fun part hpart =>
    bytesRead_payloads 0 ((Nat.zero_add _).trans_le (hfits part hpart))
  have hdrain : ∀ part : List ProgressEvent, part.Sublist events → ∀ last : Int,
      (∀ event ∈ part, last < event.sequence) →
      (readerAt attemptId last [] 0).drain (sampleReads part)
        = ((newest part, part.length - maxEventsPerDrain),
          readerAt attemptId (top last part) [] 0) := fun part hpart last hlast =>
    drain_payloads (fun event hevent => hattempt event (hpart.subset hevent))
      (fun event hevent => (hshort event (hpart.subset hevent)).trans (by decide))
      (hfits part hpart) (rising_eq_self hlast (hpairs.sublist hpart))
  have hfirst : (events.take 32).Sublist events := List.take_sublist 32 events
  have hsecond : (events.drop 32).Sublist events := List.drop_sublist 32 events
  have hlater : ∀ event ∈ events.drop 32, top 0 (events.take 32) < event.sequence := by
    intro event hevent
    rw [← List.take_append_drop 32 events, List.pairwise_append] at hpairs
    exact top_lt (hpositive event (hsecond.subset hevent)) fun e he => hpairs.2.2 e he event hevent
  have hmax : maxEventsPerDrain = 32 := rfl
  refine ⟨?_, ?_, ?_, ?_⟩
  · simp only [bytesDrained, (hread _ (.refl events)).1, (hread _ (.refl events)).2,
      (hread _ hfirst).1, (hread _ hfirst).2, (hread _ hsecond).1, (hread _ hsecond).2,
      Bool.false_eq_true, if_false, List.append_nil]
    rw [← List.flatMap_append, List.take_append_drop]
  · simp only [drainsEnd, List.any_cons, List.any_nil, (hread _ (.refl events)).2,
      (hread _ hfirst).2, (hread _ hsecond).2, Bool.or_false]
  · rw [reportedOf, readerAt_start, ProgressPipeReader.drainAll,
      hdrain events (.refl _) 0 hpositive]
    simp only [ProgressPipeReader.drainAll, List.map_cons, List.map_nil, List.sum_cons,
      List.sum_nil]
    omega
  · rw [reportedOf, readerAt_start, ProgressPipeReader.drainAll,
      hdrain _ hfirst 0 fun event hevent => hpositive event (hfirst.subset hevent)]
    simp only [ProgressPipeReader.drainAll, hdrain _ hsecond _ hlater, List.map_cons,
      List.map_nil, List.sum_cons, List.sum_nil, List.length_take, List.length_drop]
    omega

/-- **The drops reported depend on where the drains fall**: the same bytes, all of them whole
frames in sequence, are read in one drain with one drop and in two with none. -/
theorem drops_depend_on_drains :
    ¬ ∀ (attemptId : AttemptId) (drains drains' : List (List ReadResult)),
      bytesDrained drains = bytesDrained drains' → drainsEnd drains = drainsEnd drains' →
      reportedOf attemptId drains = reportedOf attemptId drains' := by
  intro h
  have hpositive : ∀ event ∈ sampleEvents, 0 < event.sequence := by
    intro event hevent
    obtain ⟨n, -, rfl⟩ := List.mem_map.mp hevent
    show 0 < (n.val : Int) + 1
    omega
  obtain ⟨hbytes, hended, hone, htwo⟩ := reportedOf_split sampleEvents_attempt sampleEvents_short
    hpositive sampleEvents_pairwise sampleEvents_length
  have hsame := h ⟨"attempt"⟩ _ _ hbytes hended
  rw [hone, htwo] at hsame
  exact absurd hsame (by decide)

end Jobs

end OnchainBacktest
