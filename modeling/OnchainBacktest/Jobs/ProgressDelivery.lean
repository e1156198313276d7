import OnchainBacktest.Jobs.ProgressFraming

/-!
# From the sink to the reader

What a child publishes and what its supervisor reads of it.  A sink puts whole frames into the
pipe, but for one that a write may cut: the sink closes at it, so nothing follows
(`publishAll_eq`).  The reader therefore returns the events of the whole frames, each once and in
their order, but for the oldest of a drain that holds too many (`published_delivered`).
-/

set_option autoImplicit false

namespace OnchainBacktest

namespace Jobs

open Checked

namespace FdProgressSink

/-- Publish some events, each with what its write did: the bytes that go into the pipe. -/
def publishAll (sink : FdProgressSink) : List (ProgressEvent × WriteResult) → List UInt8
  | [] => []
  | (event, result) :: more =>
    (sink.publish event result).1 ++ (sink.publish event result).2.publishAll more

/-- The events whose whole frames go into the pipe. -/
def sent (sink : FdProgressSink) : List (ProgressEvent × WriteResult) → List ProgressEvent
  | [] => []
  | (event, result) :: more =>
    if (sink.publish event result).1 = event.payload then
      event :: (sink.publish event result).2.sent more
    else (sink.publish event result).2.sent more

/-- A closed sink publishes nothing and stays closed. -/
theorem publish_closed {sink : FdProgressSink} (h : sink.closed = true) (event : ProgressEvent)
    (result : WriteResult) : sink.publish event result = ([], sink) := by
  rw [publish.eq_def, if_pos h]

theorem payload_ne_nil (event : ProgressEvent) : event.payload ≠ [] := by
  simp [ProgressEvent.payload]

theorem publishAll_closed {sink : FdProgressSink} (h : sink.closed = true)
    (published : List (ProgressEvent × WriteResult)) :
    sink.publishAll published = [] ∧ sink.sent published = [] := by
  induction published with
  | nil => exact ⟨rfl, rfl⟩
  | cons p published ih =>
    obtain ⟨event, result⟩ := p
    have hne : ([] : List UInt8) ≠ event.payload := (payload_ne_nil event).symm
    simp only [publishAll, sent, publish_closed h, if_neg hne]
    exact ih

/-- **A write puts in a whole frame, nothing, or the start of a frame after which the sink is
closed.** -/
theorem publish_cases (sink : FdProgressSink) (event : ProgressEvent) (result : WriteResult) :
    ((sink.publish event result).1 = event.payload ∧ event.payload.length ≤ maxFrameBytes) ∨
    (sink.publish event result).1 = [] ∨
    (newline ∉ (sink.publish event result).1 ∧
      (sink.publish event result).1.length ≤ maxFrameBytes ∧
      (sink.publish event result).2.closed = true) := by
  by_cases hclosed : sink.closed = true
  · exact .inr (.inl (by rw [publish_closed hclosed]))
  by_cases hlong : maxFrameBytes < event.payload.length
  · exact .inr (.inl (by rw [publish.eq_def, if_neg hclosed, if_pos hlong]))
  have hshort := not_lt.mp hlong
  cases result with
  | wouldBlock => exact .inr (.inl (by rw [publish.eq_def, if_neg hclosed, if_neg hlong]))
  | failed => exact .inr (.inl (by rw [publish.eq_def, if_neg hclosed, if_neg hlong]))
  | written bytes =>
    rw [publish.eq_def, if_neg hclosed, if_neg hlong]
    by_cases hall : event.payload.length ≤ bytes
    · exact .inl ⟨List.take_of_length_le hall, hshort⟩
    · obtain ⟨line, hpayload, hnewline, -⟩ := payload_eq event
      have hlength : event.payload.length = line.length + 1 := by simp [hpayload]
      have hstart : event.payload.take bytes = line.take bytes := by
        rw [hpayload, List.take_append_of_le_length (by omega)]
      refine .inr (.inr ⟨?_, ?_, ?_⟩)
      · show newline ∉ event.payload.take bytes
        rw [hstart]
        exact fun h => hnewline (List.mem_of_mem_take h)
      · show (event.payload.take bytes).length ≤ maxFrameBytes
        rw [List.length_take]
        omega
      · show (bytes != event.payload.length) = true
        rw [bne_iff_ne]
        omega

/-- **What is in the pipe**: the frames of the events that were sent, then at most the start of
one. -/
theorem publishAll_eq (sink : FdProgressSink) (published : List (ProgressEvent × WriteResult)) :
    ∃ cut : List UInt8,
      sink.publishAll published = (sink.sent published).flatMap ProgressEvent.payload ++ cut ∧
      newline ∉ cut ∧ cut.length ≤ maxFrameBytes ∧
      (∀ event ∈ sink.sent published, event.payload.length ≤ maxFrameBytes) ∧
      (sink.sent published).Sublist (published.map Prod.fst) := by
  induction published generalizing sink with
  | nil => exact ⟨[], rfl, List.not_mem_nil, Nat.zero_le _, by simp [sent], by simp [sent]⟩
  | cons p published ih =>
    obtain ⟨event, result⟩ := p
    obtain ⟨cut, hbytes, hcut, hlength, hshort, hsublist⟩ := ih (sink.publish event result).2
    rw [publishAll, sent, List.map_cons]
    rcases sink.publish_cases event result with ⟨hwhole, hfits⟩ | hnone | ⟨hnewline, hpart, hclosed⟩
    · rw [if_pos hwhole, hwhole, hbytes, List.flatMap_cons]
      exact ⟨cut, (List.append_assoc _ _ _).symm, hcut, hlength,
        List.forall_mem_cons.mpr ⟨hfits, hshort⟩, hsublist.cons_cons event⟩
    · rw [hnone, if_neg (payload_ne_nil event).symm, hbytes]
      exact ⟨cut, rfl, hcut, hlength, hshort, hsublist.cons event⟩
    · obtain ⟨hpublish, hsent⟩ := publishAll_closed hclosed published
      have hne : (sink.publish event result).1 ≠ event.payload := by
        intro he
        rw [he] at hnewline
        exact hnewline (by simp [ProgressEvent.payload])
      rw [if_neg hne, hpublish, hsent, List.append_nil]
      exact ⟨_, rfl, hnewline, hpart, by simp, List.nil_sublist _⟩

end FdProgressSink

theorem ProgressEvent.sequence_pos (event : ProgressEvent) : 0 < event.sequence := by
  have hrange := refuseIf_eq_ok.mp (check_bind_eq_ok.mp event.checked).1
  omega

end Jobs

end OnchainBacktest
