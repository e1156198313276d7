import OnchainBacktest.Lib.Lines
import OnchainBacktest.Jobs.ProgressFrames

/-!
# The reader between two chunks

What the reader of a progress pipe has read of a line is all that its buffer and its mode depend
on: the bytes themselves while they can be a frame, and nothing but the fact when there are too
many (`readerAt`).  A chunk moves it from what has been read to what the chunk leaves
(`feed_readerAt`), and so do the loop of a drain and all drains, whatever the chunks are
(`readLoop_readerAt`, `drainAll_readerAt`).
-/

set_option autoImplicit false

namespace OnchainBacktest

namespace Jobs

open Checked

/-! ## Lines and frames -/

/-- A line that `_feed` passes on: not empty, and not longer than a frame. -/
def isFrameLine (line : List UInt8) : Bool := line ≠ [] && line.length ≤ maxFrameBytes

theorem isFrameLine_eq_true_iff {line : List UInt8} :
    isFrameLine line = true ↔ ¬ (line = [] ∨ maxFrameBytes < line.length) := by
  simp [isFrameLine, not_or]

theorem find_eq_none_iff {bytes : List UInt8} : find bytes = none ↔ newline ∉ bytes :=
  List.idxOf?_eq_none_iff

/-- What is found is a line, its end, and the bytes after it. -/
theorem find_eq_some {bytes : List UInt8} {n : Nat} (h : find bytes = some n) :
    bytes = bytes.take n ++ newline :: bytes.drop (n + 1) ∧ newline ∉ bytes.take n := by
  obtain ⟨hlt, hat, hbefore⟩ := List.idxOf?_eq_some_iff.mp h
  refine ⟨?_, ?_⟩
  · conv_lhs => rw [← List.take_append_drop n bytes, List.drop_eq_getElem_cons hlt, hat]
  · intro hmem
    obtain ⟨i, hi, hget⟩ := List.mem_iff_getElem.mp hmem
    rw [List.length_take] at hi
    rw [List.getElem_take] at hget
    exact hbefore i (by omega) hget

theorem takeFrames_of_notMem {buffer : List UInt8} (h : newline ∉ buffer) :
    takeFrames buffer = ([], 0, buffer) := by
  rw [takeFrames]
  split
  · rfl
  · rename_i n hn
    rw [find_eq_none_iff.mpr h] at hn
    exact absurd hn (by simp)

/-- One pass of the loop takes one line. -/
theorem takeFrames_line {line : List UInt8} (h : newline ∉ line) (more : List UInt8) :
    takeFrames (line ++ newline :: more)
      = (if isFrameLine line = true then line :: (takeFrames more).1 else (takeFrames more).1,
        (takeFrames more).2.1 + (if isFrameLine line = true then 0 else 1),
        (takeFrames more).2.2) := by
  have hfind : find (line ++ newline :: more) = some line.length := by
    refine List.idxOf?_eq_some_iff.mpr ⟨by simp, by simp, fun i hi hget => ?_⟩
    rw [List.getElem_append_left hi] at hget
    exact h (hget ▸ List.getElem_mem hi)
  rw [takeFrames]
  split
  · rename_i hn
    rw [hfind] at hn
    exact absurd hn (by simp)
  · rename_i n hn
    obtain rfl : n = line.length := by simpa [hfind] using hn.symm
    have htake : (line ++ newline :: more).take line.length = line := by simp
    have hdrop : (line ++ newline :: more).drop (line.length + 1) = more := by simp
    rw [htake, hdrop]
    obtain ⟨frames, dropped, rest⟩ := takeFrames more
    dsimp only
    by_cases hframe : isFrameLine line = true
    · rw [if_pos hframe, if_pos hframe, if_neg (isFrameLine_eq_true_iff.mp hframe), Nat.add_zero]
    · rw [if_neg hframe, if_neg hframe,
        if_pos (not_not.mp fun hbad => hframe (isFrameLine_eq_true_iff.mpr hbad))]

/-- The loop over a buffer takes its complete lines: those that can be frames are passed on, the
others are counted, and what is left is the line that is not complete. -/
theorem takeFrames_eq (buffer : List UInt8) :
    takeFrames buffer
      = ((Lines.terminated newline buffer).filter isFrameLine,
        ((Lines.terminated newline buffer).filter fun line => !isFrameLine line).length,
        Lines.remainder newline buffer) := by
  induction hlength : buffer.length using Nat.strong_induction_on generalizing buffer with
  | _ k ih =>
    cases hfind : find buffer with
    | none =>
      have hnone := find_eq_none_iff.mp hfind
      rw [takeFrames_of_notMem hnone, Lines.terminated, Lines.remainder,
        Lines.split_of_notMem newline hnone]
      rfl
    | some n =>
      obtain ⟨hbuffer, hline⟩ := find_eq_some hfind
      have hshort := drop_find_lt hfind
      rw [hbuffer, takeFrames_line hline, ih _ (by omega) _ rfl,
        Lines.terminated_line newline hline, Lines.remainder_line newline hline]
      by_cases hframe : isFrameLine (buffer.take n) = true
      · simp [hframe]
      · simp [hframe]

/-! ## The state of the reader -/

/-- One when a line has been read past the length of a frame and has not ended yet. -/
def overlong (rest : List UInt8) : Nat := if maxFrameBytes < rest.length then 1 else 0

/-- The reader that has read so much of a line: the bytes themselves while they can be a frame,
and only that they are to be thrown away when there are too many. -/
def readerAt (attemptId : AttemptId) (last : Int) (rest : List UInt8) (dropped : Nat) :
    ProgressPipeReader :=
  { attemptId
    buffer := if maxFrameBytes < rest.length then [] else rest
    discardUntilNewline := decide (maxFrameBytes < rest.length)
    lastSequence := last
    droppedSinceDrain := dropped
    closed := false }

theorem readerAt_start (attemptId : AttemptId) :
    ProgressPipeReader.start attemptId = readerAt attemptId 0 [] 0 := rfl

theorem readerAt_short {attemptId : AttemptId} {last : Int} {rest : List UInt8} {dropped : Nat}
    (h : ¬ maxFrameBytes < rest.length) :
    readerAt attemptId last rest dropped
      = { attemptId, buffer := rest, discardUntilNewline := false, lastSequence := last,
          droppedSinceDrain := dropped, closed := false } := by
  simp [readerAt, h]

theorem readerAt_long {attemptId : AttemptId} {last : Int} {rest : List UInt8} {dropped : Nat}
    (h : maxFrameBytes < rest.length) :
    readerAt attemptId last rest dropped
      = { attemptId, buffer := [], discardUntilNewline := true, lastSequence := last,
          droppedSinceDrain := dropped, closed := false } := by
  simp [readerAt, h]

/-- What a chunk does to a reader that keeps the bytes it has read of a line. -/
theorem extend_readerAt {attemptId : AttemptId} {last : Int} {rest : List UInt8} {dropped : Nat}
    (hrest : newline ∉ rest) (h : ¬ maxFrameBytes < rest.length) (chunk : List UInt8) :
    (readerAt attemptId last rest dropped).extend chunk
      = ((Lines.split newline rest chunk).1.filter isFrameLine,
        readerAt attemptId last (Lines.split newline rest chunk).2
          (dropped
            + ((Lines.split newline rest chunk).1.filter fun line => !isFrameLine line).length
            + overlong (Lines.split newline rest chunk).2)) := by
  rw [readerAt_short h, ProgressPipeReader.extend, takeFrames_eq,
    Lines.split_eq_split_nil newline hrest, Lines.terminated, Lines.remainder]
  dsimp only
  by_cases hlong : maxFrameBytes < (Lines.split newline [] (rest ++ chunk)).2.length
  · rw [readerAt_long hlong, overlong, if_pos hlong, if_pos hlong]
  · rw [readerAt_short hlong, overlong, if_neg hlong, if_neg hlong, Nat.add_zero]

/-- **What a chunk does to the reader**, however it cuts the lines: the complete lines that can be
frames are passed on, and the reader has read what is left.  A line is counted once, when it ends
or when it gets too long, whichever comes first. -/
theorem feed_readerAt (attemptId : AttemptId) (last : Int) {rest : List UInt8}
    (hrest : newline ∉ rest) (dropped : Nat) (chunk : List UInt8) :
    ∃ dropped', (readerAt attemptId last rest dropped).feed chunk
        = ((Lines.split newline rest chunk).1.filter isFrameLine,
          readerAt attemptId last (Lines.split newline rest chunk).2 dropped') ∧
      dropped' + overlong rest
        = dropped + ((Lines.split newline rest chunk).1.filter fun line => !isFrameLine line).length
          + overlong (Lines.split newline rest chunk).2 := by
  by_cases hlong : maxFrameBytes < rest.length
  · cases hfind : find chunk with
    | none =>
      have hnone := find_eq_none_iff.mp hfind
      have hlong' : maxFrameBytes < (rest ++ chunk).length := by
        rw [List.length_append]
        omega
      refine ⟨dropped, ?_, ?_⟩
      · rw [Lines.split_of_notMem newline hnone, readerAt_long hlong, readerAt_long hlong',
          ProgressPipeReader.feed, hfind]
        rfl
      · rw [Lines.split_of_notMem newline hnone, overlong, overlong, if_pos hlong, if_pos hlong']
        rfl
    | some n =>
      obtain ⟨hchunk, hline⟩ := find_eq_some hfind
      have hbad : isFrameLine (rest ++ chunk.take n) = false := by
        rw [← Bool.not_eq_true, isFrameLine_eq_true_iff, not_not, List.length_append]
        exact Or.inr (by omega)
      have hfresh : (readerAt attemptId last [] dropped).extend (chunk.drop (n + 1)) = _ :=
        extend_readerAt (by simp) (by simp [maxFrameBytes]) _
      have hsplit : Lines.split newline rest chunk
          = ((rest ++ chunk.take n) :: (Lines.split newline [] (chunk.drop (n + 1))).1,
            (Lines.split newline [] (chunk.drop (n + 1))).2) := by
        conv_lhs => rw [hchunk]
        exact Lines.split_line newline hline rest _
      refine ⟨dropped + ((Lines.split newline [] (chunk.drop (n + 1))).1.filter
          fun line => !isFrameLine line).length
          + overlong (Lines.split newline [] (chunk.drop (n + 1))).2, ?_, ?_⟩
      · rw [readerAt_long hlong, ProgressPipeReader.feed, hfind, hsplit, List.filter_cons_of_neg
          (by simp [hbad])]
        exact hfresh
      · have hone : overlong rest = 1 := if_pos hlong
        rw [hsplit, List.filter_cons_of_pos (by simp [hbad]), List.length_cons]
        dsimp only
        omega
  · refine ⟨dropped + ((Lines.split newline rest chunk).1.filter
        fun line => !isFrameLine line).length
        + overlong (Lines.split newline rest chunk).2, ?_, ?_⟩
    · rw [ProgressPipeReader.feed, readerAt_short hlong]
      dsimp only
      rw [if_neg (by simp), ← readerAt_short hlong]
      exact extend_readerAt hrest hlong chunk
    · have hzero : overlong rest = 0 := if_neg hlong
      rw [hzero, Nat.add_zero]

/-! ## Events in sequence -/

/-- The event of a line, when the line can be a frame. -/
def frameOf (attemptId : AttemptId) (line : List UInt8) : Option ProgressEvent :=
  if isFrameLine line = true then decode attemptId line else none

/-- The events that go on in sequence. -/
def rising : Int → List ProgressEvent → List ProgressEvent
  | _, [] => []
  | last, event :: events =>
    if event.sequence ≤ last then rising last events
    else event :: rising event.sequence events

/-- The sequence of the last event there is. -/
def top (last : Int) (events : List ProgressEvent) : Int :=
  events.foldl (fun _ event => event.sequence) last

theorem rising_append (last : Int) (events more : List ProgressEvent) :
    rising last (events ++ more)
      = rising last events ++ rising (top last (rising last events)) more := by
  induction events generalizing last with
  | nil => rfl
  | cons event events ih =>
    rw [List.cons_append, rising, rising]
    split_ifs
    · exact ih last
    · rw [ih event.sequence]
      rfl

theorem length_rising_le (last : Int) (events : List ProgressEvent) :
    (rising last events).length ≤ events.length := by
  induction events generalizing last with
  | nil => simp [rising]
  | cons event events ih =>
    rw [rising]
    split_ifs
    · exact (ih last).trans (by simp)
    · simpa using ih event.sequence

/-- The events of the lines that go on in sequence. -/
def acceptedOf (attemptId : AttemptId) (last : Int) (lines : List (List UInt8)) :
    List ProgressEvent :=
  rising last (lines.filterMap (frameOf attemptId))

theorem acceptedOf_append (attemptId : AttemptId) (last : Int) (lines more : List (List UInt8)) :
    acceptedOf attemptId last (lines ++ more)
      = acceptedOf attemptId last lines
        ++ acceptedOf attemptId (top last (acceptedOf attemptId last lines)) more := by
  rw [acceptedOf, List.filterMap_append, rising_append]
  rfl

theorem top_append (last : Int) (events more : List ProgressEvent) :
    top last (events ++ more) = top (top last events) more :=
  List.foldl_append

theorem length_acceptedOf_le (attemptId : AttemptId) (last : Int) (lines : List (List UInt8)) :
    (acceptedOf attemptId last lines).length ≤ lines.length :=
  (length_rising_le last _).trans (List.length_filterMap_le _ _)

theorem filterMap_frameOf (attemptId : AttemptId) (lines : List (List UInt8)) :
    lines.filterMap (frameOf attemptId)
      = (lines.filter isFrameLine).filterMap (decode attemptId) := by
  induction lines with
  | nil => rfl
  | cons line lines ih =>
    by_cases h : isFrameLine line = true
    · rw [List.filter_cons_of_pos h, List.filterMap_cons, List.filterMap_cons, ih, frameOf,
        if_pos h]
    · rw [List.filter_cons_of_neg h, List.filterMap_cons, frameOf, if_neg h, ih]

/-- The loop over the frames of a chunk: the events in sequence are kept, every other frame is
counted. -/
theorem foldl_offer (frames : List (List UInt8)) (reader : ProgressPipeReader)
    (events : List ProgressEvent) :
    ∃ dropped, frames.foldl ProgressPipeReader.offer (reader, events)
        = ({ reader with
              lastSequence := top reader.lastSequence
                (rising reader.lastSequence (frames.filterMap (decode reader.attemptId)))
              droppedSinceDrain := dropped },
          events ++ rising reader.lastSequence (frames.filterMap (decode reader.attemptId))) ∧
      dropped + (rising reader.lastSequence (frames.filterMap (decode reader.attemptId))).length
        = reader.droppedSinceDrain + frames.length := by
  induction frames generalizing reader events with
  | nil => exact ⟨reader.droppedSinceDrain, by simp [rising, top], by simp [rising]⟩
  | cons frame frames ih =>
    rw [List.foldl_cons]
    cases hdecode : decode reader.attemptId frame with
    | none =>
      obtain ⟨dropped, hloop, hcount⟩ :=
        ih { reader with droppedSinceDrain := reader.droppedSinceDrain + 1 } events
      refine ⟨dropped, ?_, ?_⟩
      · rw [List.filterMap_cons, hdecode, ProgressPipeReader.offer]
        simp only [hdecode]
        exact hloop
      · rw [List.filterMap_cons, hdecode, List.length_cons]
        dsimp only at hcount ⊢
        omega
    | some event =>
      by_cases hold : event.sequence ≤ reader.lastSequence
      · obtain ⟨dropped, hloop, hcount⟩ :=
          ih { reader with droppedSinceDrain := reader.droppedSinceDrain + 1 } events
        refine ⟨dropped, ?_, ?_⟩
        · rw [List.filterMap_cons, hdecode, ProgressPipeReader.offer]
          simp only [hdecode, rising, if_pos hold]
          exact hloop
        · rw [List.filterMap_cons, hdecode, List.length_cons]
          simp only [rising, if_pos hold]
          dsimp only at hcount
          omega
      · obtain ⟨dropped, hloop, hcount⟩ :=
          ih { reader with lastSequence := event.sequence } (events ++ [event])
        refine ⟨dropped, ?_, ?_⟩
        · rw [List.filterMap_cons, hdecode, ProgressPipeReader.offer]
          simp only [hdecode, rising, if_neg hold, top, List.foldl_cons]
          rw [List.append_assoc, List.singleton_append] at hloop
          exact hloop
        · rw [List.filterMap_cons, hdecode, List.length_cons]
          simp only [rising, if_neg hold, List.length_cons]
          dsimp only at hcount
          omega

/-! ## Drains -/

/-- The bytes the loop of a drain reads. -/
def bytesRead (readBytes : Nat) : List ReadResult → List UInt8
  | [] => []
  | result :: results =>
    if readBytes < maxDrainBytes then
      match result with
      | .wouldBlock => []
      | .failed => []
      | .data chunk =>
        if chunk = [] then [] else chunk ++ bytesRead (readBytes + chunk.length) results
    else []

/-- Whether the loop of a drain comes to the end of the pipe. -/
def reachesEof (readBytes : Nat) : List ReadResult → Bool
  | [] => false
  | result :: results =>
    if readBytes < maxDrainBytes then
      match result with
      | .wouldBlock => false
      | .failed => true
      | .data chunk => if chunk = [] then true else reachesEof (readBytes + chunk.length) results
    else false

/-- What reading some bytes makes of a reader that has read `rest` of a line: the events of the
lines they complete are kept, the reader has read what they leave, and a line that is not accepted
is counted once. -/
def Reads (attemptId : AttemptId) (last : Int) (rest : List UInt8) (dropped : Nat)
    (events : List ProgressEvent) (bytes : List UInt8) (ended : Bool)
    (result : ProgressPipeReader × List ProgressEvent × Bool) : Prop :=
  ∃ dropped', result
      = (readerAt attemptId
          (top last (acceptedOf attemptId last (Lines.split newline rest bytes).1))
          (Lines.split newline rest bytes).2 dropped',
        events ++ acceptedOf attemptId last (Lines.split newline rest bytes).1, ended) ∧
    dropped' + overlong rest + (acceptedOf attemptId last (Lines.split newline rest bytes).1).length
      = dropped + (Lines.split newline rest bytes).1.length
        + overlong (Lines.split newline rest bytes).2

theorem reads_nil (attemptId : AttemptId) (last : Int) (rest : List UInt8) (dropped : Nat)
    (events : List ProgressEvent) (ended : Bool) :
    Reads attemptId last rest dropped events [] ended
      (readerAt attemptId last rest dropped, events, ended) :=
  ⟨dropped, by simp [acceptedOf, rising, top], by simp [acceptedOf, rising]⟩

/-- A chunk and the frames it completes. -/
theorem foldl_offer_feed (attemptId : AttemptId) (last : Int) {rest : List UInt8}
    (hrest : newline ∉ rest) (dropped : Nat) (events : List ProgressEvent) (chunk : List UInt8) :
    ∃ dropped', ((readerAt attemptId last rest dropped).feed chunk).1.foldl
          ProgressPipeReader.offer (((readerAt attemptId last rest dropped).feed chunk).2, events)
        = (readerAt attemptId
            (top last (acceptedOf attemptId last (Lines.split newline rest chunk).1))
            (Lines.split newline rest chunk).2 dropped',
          events ++ acceptedOf attemptId last (Lines.split newline rest chunk).1) ∧
      dropped' + overlong rest
          + (acceptedOf attemptId last (Lines.split newline rest chunk).1).length
        = dropped + (Lines.split newline rest chunk).1.length
          + overlong (Lines.split newline rest chunk).2 := by
  obtain ⟨fed, hfeed, hfed⟩ := feed_readerAt attemptId last hrest dropped chunk
  obtain ⟨dropped', hloop, hcount⟩ := foldl_offer
    ((Lines.split newline rest chunk).1.filter isFrameLine)
    (readerAt attemptId last (Lines.split newline rest chunk).2 fed) events
  have haccepted : rising last (((Lines.split newline rest chunk).1.filter isFrameLine).filterMap
      (decode attemptId)) = acceptedOf attemptId last (Lines.split newline rest chunk).1 := by
    rw [acceptedOf, filterMap_frameOf]
  have hlines := List.length_eq_length_filter_add (l := (Lines.split newline rest chunk).1)
    isFrameLine
  refine ⟨dropped', ?_, ?_⟩
  · rw [hfeed]
    refine hloop.trans ?_
    rw [← haccepted]
    rfl
  · rw [show (readerAt attemptId last (Lines.split newline rest chunk).2 fed).lastSequence = last
      from rfl, show (readerAt attemptId last (Lines.split newline rest chunk).2 fed).attemptId
      = attemptId from rfl, haccepted] at hcount
    rw [show (readerAt attemptId last (Lines.split newline rest chunk).2 fed).droppedSinceDrain
      = fed from rfl] at hcount
    omega

/-- **The loop of a drain**, by the bytes it reads. -/
theorem readLoop_readerAt (attemptId : AttemptId) (results : List ReadResult) (last : Int)
    {rest : List UInt8} (hrest : newline ∉ rest) (dropped : Nat) (events : List ProgressEvent)
    (readBytes : Nat) :
    Reads attemptId last rest dropped events (bytesRead readBytes results)
      (reachesEof readBytes results)
      ((readerAt attemptId last rest dropped).readLoop events readBytes results) := by
  induction results generalizing last rest dropped events readBytes with
  | nil => exact reads_nil attemptId last rest dropped events false
  | cons result results ih =>
    by_cases hread : readBytes < maxDrainBytes
    · cases result with
      | wouldBlock =>
        simp only [ProgressPipeReader.readLoop, bytesRead, reachesEof, if_pos hread]
        exact reads_nil attemptId last rest dropped events false
      | failed =>
        simp only [ProgressPipeReader.readLoop, bytesRead, reachesEof, if_pos hread]
        exact reads_nil attemptId last rest dropped events true
      | data chunk =>
        by_cases hempty : chunk = []
        · simp only [ProgressPipeReader.readLoop, bytesRead, reachesEof, if_pos hread,
            if_pos hempty]
          exact reads_nil attemptId last rest dropped events true
        · obtain ⟨fed, hfeed, hfed⟩ := foldl_offer_feed attemptId last hrest dropped events chunk
          obtain ⟨dropped', hloop, hcount⟩ := ih _
            (Lines.notMem_split newline hrest chunk) fed
            (events ++ acceptedOf attemptId last (Lines.split newline rest chunk).1)
            (readBytes + chunk.length)
          simp only [ProgressPipeReader.readLoop, bytesRead, reachesEof, if_pos hread,
            if_neg hempty]
          rw [hfeed]
          refine ⟨dropped', hloop.trans ?_, ?_⟩
          · rw [Lines.split_append, acceptedOf_append, top_append, List.append_assoc]
          · rw [Lines.split_append, acceptedOf_append, List.length_append, List.length_append]
            dsimp only
            omega
    · simp only [ProgressPipeReader.readLoop, bytesRead, reachesEof, if_neg hread]
      exact reads_nil attemptId last rest dropped events false

/-- What is left of a line at the end of the pipe is dropped once more. -/
def cutOff (ended : Bool) (rest : List UInt8) : Nat := if ended = true ∧ rest ≠ [] then 1 else 0

/-- The newest events, as many as a drain returns. -/
def newest (events : List ProgressEvent) : List ProgressEvent :=
  events.drop (events.length - maxEventsPerDrain)

theorem finish_readerAt (attemptId : AttemptId) (last : Int) (rest : List UInt8) (dropped : Nat) :
    (readerAt attemptId last rest dropped).finish
      = { attemptId, buffer := [], discardUntilNewline := false, lastSequence := last,
          droppedSinceDrain := dropped + cutOff true rest, closed := true } := by
  by_cases hlong : maxFrameBytes < rest.length
  · have hne : rest ≠ [] := by
      rintro rfl
      exact absurd hlong (by simp)
    simp [readerAt_long hlong, ProgressPipeReader.finish, cutOff, hne]
  · simp [readerAt_short hlong, ProgressPipeReader.finish, cutOff]

/-- **One drain**: of the events it accepts the newest ones are returned, and it reports the lines
it has not accepted and the events it has not returned. -/
theorem drain_readerAt (attemptId : AttemptId) (last : Int) {rest : List UInt8}
    (hrest : newline ∉ rest) (results : List ReadResult) :
    ∃ reported next, (readerAt attemptId last rest 0).drain results
        = ((newest (acceptedOf attemptId last
            (Lines.split newline rest (bytesRead 0 results)).1), reported), next) ∧
      reported + overlong rest + (acceptedOf attemptId last
          (Lines.split newline rest (bytesRead 0 results)).1).length
        = (Lines.split newline rest (bytesRead 0 results)).1.length
          + overlong (Lines.split newline rest (bytesRead 0 results)).2
          + cutOff (reachesEof 0 results) (Lines.split newline rest (bytesRead 0 results)).2
          + ((acceptedOf attemptId last
              (Lines.split newline rest (bytesRead 0 results)).1).length - maxEventsPerDrain) ∧
      (reachesEof 0 results = true → next.closed = true) ∧
      (reachesEof 0 results = false → next = readerAt attemptId
        (top last (acceptedOf attemptId last
          (Lines.split newline rest (bytesRead 0 results)).1))
        (Lines.split newline rest (bytesRead 0 results)).2 0) := by
  obtain ⟨dropped', hloop, hcount⟩ := readLoop_readerAt attemptId results last hrest 0 [] 0
  have hopen : ¬ (readerAt attemptId last rest 0).closed = true := by simp [readerAt]
  rw [ProgressPipeReader.drain, if_neg hopen, hloop, List.nil_append]
  cases hended : reachesEof 0 results with
  | false =>
    refine ⟨_, _, rfl, ?_, fun h => absurd h (by simp), fun _ => rfl⟩
    dsimp only [readerAt, cutOff]
    simp only [Bool.false_eq_true, false_and, if_false]
    omega
  | true =>
    refine ⟨_, _, rfl, ?_, fun _ => ?_, fun h => absurd h (by simp)⟩
    · simp only [if_true, finish_readerAt]
      omega
    · simp only [if_true, finish_readerAt]

/-- The bytes that are read over all drains: none after the end of the pipe. -/
def bytesDrained : List (List ReadResult) → List UInt8
  | [] => []
  | results :: drains =>
    bytesRead 0 results ++ (if reachesEof 0 results = true then [] else bytesDrained drains)

/-- Whether the drains come to the end of the pipe. -/
def drainsEnd (drains : List (List ReadResult)) : Bool := drains.any (reachesEof 0)

/-- A reader that is closed returns and reports nothing. -/
theorem drainAll_closed {reader : ProgressPipeReader} (h : reader.closed = true)
    (drains : List (List ReadResult)) :
    (reader.drainAll drains).1 = drains.map fun _ => ([], 0) := by
  induction drains with
  | nil => rfl
  | cons results drains ih =>
    have hdrain : reader.drain results = (([], 0), reader) := by
      rw [ProgressPipeReader.drain, if_pos h]
    rw [ProgressPipeReader.drainAll, hdrain, List.map_cons, ← ih]

/-- **All drains**, by the bytes they read: the events they accept are those of the complete lines,
each drain returns the newest it accepted, and together they report every line that is not
accepted, what is left of a line, and the events that are not returned. -/
theorem drainAll_readerAt (attemptId : AttemptId) (drains : List (List ReadResult)) (last : Int)
    {rest : List UInt8} (hrest : newline ∉ rest) :
    ∃ accepted : List (List ProgressEvent),
      (((readerAt attemptId last rest 0).drainAll drains).1.map Prod.fst) = accepted.map newest ∧
      accepted.flatten
        = acceptedOf attemptId last (Lines.split newline rest (bytesDrained drains)).1 ∧
      (((readerAt attemptId last rest 0).drainAll drains).1.map Prod.snd).sum + overlong rest
          + (acceptedOf attemptId last (Lines.split newline rest (bytesDrained drains)).1).length
        = (Lines.split newline rest (bytesDrained drains)).1.length
          + overlong (Lines.split newline rest (bytesDrained drains)).2
          + cutOff (drainsEnd drains) (Lines.split newline rest (bytesDrained drains)).2
          + (accepted.map fun events => events.length - maxEventsPerDrain).sum := by
  induction drains generalizing last rest with
  | nil => exact ⟨[], rfl, by simp [bytesDrained, acceptedOf, rising],
      by simp [bytesDrained, acceptedOf, rising, ProgressPipeReader.drainAll, cutOff, drainsEnd]⟩
  | cons results drains ih =>
    obtain ⟨reported, next, hdrain, hcount, hclosed, hopen⟩ :=
      drain_readerAt attemptId last hrest results
    cases hended : reachesEof 0 results with
    | true =>
      refine ⟨acceptedOf attemptId last (Lines.split newline rest (bytesRead 0 results)).1
        :: drains.map fun _ => [], ?_, ?_, ?_⟩
      · rw [ProgressPipeReader.drainAll, hdrain]
        simp only [List.map_cons, drainAll_closed (hclosed hended), List.map_map]
        congr 1
      · simp [bytesDrained, hended]
      · rw [ProgressPipeReader.drainAll, hdrain]
        simp only [List.map_cons, drainAll_closed (hclosed hended), List.map_map, List.sum_cons,
          bytesDrained, hended, if_true, List.append_nil, drainsEnd, List.any_cons, Bool.true_or]
        rw [hended] at hcount
        have hzero : (drains.map fun _ : List ReadResult => (0 : Nat)).sum = 0 := by simp
        have hzero' : (drains.map (Prod.snd ∘ fun _ => (([] : List ProgressEvent), 0))).sum = 0 :=
          hzero
        have hzero'' : (drains.map ((fun events : List ProgressEvent =>
            events.length - maxEventsPerDrain) ∘ fun _ => [])).sum = 0 := hzero
        omega
    | false =>
      obtain ⟨accepted, hreturned, hflatten, htotal⟩ :=
        ih (top last (acceptedOf attemptId last
          (Lines.split newline rest (bytesRead 0 results)).1))
          (Lines.notMem_split newline hrest (bytesRead 0 results))
      rw [← hopen hended] at hreturned htotal
      refine ⟨acceptedOf attemptId last (Lines.split newline rest (bytesRead 0 results)).1
        :: accepted, ?_, ?_, ?_⟩
      · rw [ProgressPipeReader.drainAll, hdrain]
        simp only [List.map_cons, hreturned]
      · rw [List.flatten_cons, hflatten, bytesDrained, hended, if_neg (by simp),
          Lines.split_append, acceptedOf_append]
      · rw [ProgressPipeReader.drainAll, hdrain, bytesDrained, if_neg (by simp [hended]),
          Lines.split_append, acceptedOf_append]
        simp only [List.map_cons, List.sum_cons, List.length_append, drainsEnd, List.any_cons,
          hended, Bool.false_or]
        have hnone : cutOff false (Lines.split newline rest (bytesRead 0 results)).2 = 0 := by
          simp [cutOff]
        rw [hended, hnone] at hcount
        rw [drainsEnd] at htotal
        omega

end Jobs

end OnchainBacktest
