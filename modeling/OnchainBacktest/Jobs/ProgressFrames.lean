import OnchainBacktest.Jobs.ProgressPipe

/-!
# The frames of an attempt

Which lines the supervisor decodes: `decode` gives an event exactly for the canonical JSON text of
an event of its attempt (`decode_eq_some_iff`).  The parser reads much else, but a text is compared
with the canonical text of what was read from it, so nothing else is left.
-/

set_option autoImplicit false

namespace OnchainBacktest

namespace Jobs

open Checked

/-! ## One frame -/

theorem ProgressLevel.readMember_value (level : ProgressLevel) :
    Document.readMember QueueFault.value ProgressLevel.members ProgressLevel.value "ProgressLevel"
      level.value = .ok level := by
  cases level <;> rfl

theorem ProgressStage.readMember_value (stage : ProgressStage) :
    Document.readMember QueueFault.value ProgressStage.members ProgressStage.value "ProgressStage"
      stage.value = .ok stage := by
  cases stage <;> rfl

theorem inOrder_document (event : ProgressEvent) :
    (Document.object event.document).InOrder := by
  refine ⟨?_, ?_⟩
  · show List.Pairwise (· < ·) frameKeys
    decide
  · cases hc : event.completedUnits <;> cases ht : event.totalUnits <;>
      simp [ProgressEvent.document, Document.InOrderFields, Document.InOrder,
        Document.optionalInteger, hc, ht]

/-- A frame has bytes. -/
theorem canonicalJsonBytes_document (event : ProgressEvent) :
    ∃ bytes, Document.canonicalJsonBytes (.object event.document) = some bytes := by
  cases hc : event.completedUnits <;> cases ht : event.totalUnits <;>
    simp [ProgressEvent.document, Document.canonicalJsonBytes, Document.write,
      Document.writeFields, Document.optionalInteger, hc, ht]

/-- The fields of an event are read as that event. -/
theorem decodeDocument_document (event : ProgressEvent) :
    decodeDocument event.attemptId event.document = .ok event := by
  have hmake : ProgressEvent.make event.attemptId event.sequence event.level event.stage
      event.completedUnits event.totalUnits = .ok event :=
    construct_eq_ok.mpr ⟨event.checked, rfl⟩
  have hentries : Document.entry event.document "sequence" = .integer event.sequence ∧
      Document.entry event.document "completed_units" = .optionalInteger event.completedUnits ∧
      Document.entry event.document "total_units" = .optionalInteger event.totalUnits ∧
      Document.entry event.document "level" = .text event.level.value ∧
      Document.entry event.document "stage" = .text event.stage.value :=
    ⟨rfl, rfl, rfl, rfl, rfl⟩
  obtain ⟨h₁, h₂, h₃, h₄, h₅⟩ := hentries
  rw [decodeDocument, h₁, h₂, h₃, h₄, h₅]
  simp only [Document.readInteger_integer, Document.readOptionalInteger_optionalInteger,
    Document.readText_text, ok_bind, ProgressLevel.readMember_value,
    ProgressStage.readMember_value, hmake]

theorem readMember_eq_ok {α : Type} {members : List α} {spell : α → String} {kind value : String}
    {member : α}
    (h : Document.readMember QueueFault.value members spell kind value = .ok member) :
    spell member = value := by
  unfold Document.readMember at h
  split at h
  · rename_i found hfound
    obtain rfl := Except.ok.inj h
    simpa using List.find?_some hfound
  · exact absurd h (by simp)

theorem readInteger_eq_ok {value : Document} {field : String} {n : Int}
    (h : Document.readInteger QueueFault.value value field = .ok n) : value = .integer n := by
  unfold Document.readInteger at h
  split at h
  · obtain rfl := Except.ok.inj h
    rfl
  · exact absurd h (by simp)

theorem readOptionalInteger_eq_ok {value : Document} {field : String} {n : Option Int}
    (h : Document.readOptionalInteger QueueFault.value value field = .ok n) :
    value = .optionalInteger n := by
  cases value with
  | null =>
    obtain rfl := Except.ok.inj h
    rfl
  | integer m =>
    obtain rfl := Except.ok.inj h
    rfl
  | boolean b => exact absurd h (by simp [Document.readOptionalInteger, Document.readInteger])
  | text s => exact absurd h (by simp [Document.readOptionalInteger, Document.readInteger])
  | array items => exact absurd h (by simp [Document.readOptionalInteger, Document.readInteger])
  | object fields => exact absurd h (by simp [Document.readOptionalInteger, Document.readInteger])
  | other tag => exact absurd h (by simp [Document.readOptionalInteger, Document.readInteger])

theorem readText_eq_ok {value : Document} {field : String} {s : String}
    (h : Document.readText QueueFault.value value field = .ok s) : value = .text s := by
  unfold Document.readText at h
  split at h
  · obtain rfl := Except.ok.inj h
    rfl
  · exact absurd h (by simp)

theorem ProgressEvent.make_eq_ok {attemptId : AttemptId} {sequence : Int} {level : ProgressLevel}
    {stage : ProgressStage} {completed total : Option Int} {event : ProgressEvent}
    (h : ProgressEvent.make attemptId sequence level stage completed total = .ok event) :
    event.attemptId = attemptId ∧ event.sequence = sequence ∧ event.level = level ∧
      event.stage = stage ∧ event.completedUnits = completed ∧ event.totalUnits = total := by
  obtain ⟨_, rfl⟩ := construct_eq_ok.mp h
  exact ⟨rfl, rfl, rfl, rfl, rfl, rfl⟩

/-- What is under a key of a dictionary with no key twice. -/
theorem entry_of_mem {document : List (String × Document)} (h : (document.map Prod.fst).Nodup)
    {e : String × Document} (he : e ∈ document) : Document.entry document e.1 = e.2 := by
  induction document with
  | nil => exact absurd he (by simp)
  | cons first document ih =>
    obtain ⟨key, value⟩ := first
    rw [List.map_cons, List.nodup_cons] at h
    rcases List.mem_cons.mp he with rfl | hmem
    · simp [Document.entry]
    · have hne : (e.1 == key) = false :=
        beq_eq_false_iff_ne.mpr fun heq => h.1 (List.mem_map.mpr ⟨e, hmem, heq⟩)
      rw [Document.entry, List.lookup_cons, hne]
      exact ih h.2 hmem

/-- A dictionary with no key twice is given by its keys and what is under each of them. -/
theorem eq_map_entry {document : List (String × Document)} (h : (document.map Prod.fst).Nodup) :
    document = (document.map Prod.fst).map fun key => (key, Document.entry document key) := by
  rw [List.map_map]
  conv_lhs => rw [← List.map_id document]
  exact List.map_congr_left fun e he => Prod.ext rfl (entry_of_mem h he).symm

/-- **The lines that are decoded**: the canonical texts of the events of the attempt. -/
theorem decode_eq_some_iff {attemptId : AttemptId} {payload : List UInt8} {event : ProgressEvent} :
    decode attemptId payload = some event ↔
      event.attemptId = attemptId ∧
        Document.canonicalJsonBytes (.object event.document) = some payload := by
  constructor
  · intro h
    simp only [decode, Option.bind_eq_bind, Option.bind_eq_some_iff] at h
    obtain ⟨raw, -, canonical, hcanonical, h⟩ := h
    split_ifs at h with hpayload
    rw [not_not] at hpayload
    subst hpayload
    simp only [Option.bind_eq_some_iff] at h
    obtain ⟨document, hobject, h⟩ := h
    split_ifs at h with hkeys hschema hattempt
    rw [not_not] at hkeys hschema hattempt
    have hread : decodeDocument attemptId document = .ok event := by
      cases hdecode : decodeDocument attemptId document with
      | error e => exact absurd h (by simp [hdecode, Except.toOption])
      | ok found =>
        rw [hdecode] at h
        exact congrArg Except.ok (Option.some.inj h)
    simp only [decodeDocument, bind_eq_ok] at hread
    obtain ⟨sequence, hsequence, completed, hcompleted, total, htotal, levelText, hlevelText, level,
      hlevel, stageText, hstageText, stage, hstage, hmake⟩ := hread
    obtain ⟨rfl, rfl, rfl, rfl, rfl, rfl⟩ := ProgressEvent.make_eq_ok hmake
    have hdocument : document = event.document := by
      have hnodup : (document.map Prod.fst).Nodup := by
        rw [hkeys]
        decide
      rw [eq_map_entry hnodup, hkeys]
      simp only [frameKeys, List.map_cons, List.map_nil, hattempt, hschema,
        readInteger_eq_ok hsequence, readOptionalInteger_eq_ok hcompleted,
        readOptionalInteger_eq_ok htotal, readText_eq_ok hlevelText, readText_eq_ok hstageText,
        ← readMember_eq_ok hlevel, ← readMember_eq_ok hstage, ProgressEvent.document]
    refine ⟨rfl, ?_⟩
    rw [← hdocument]
    cases raw with
    | object fields =>
      obtain rfl : fields = document := by simpa [asObject] using hobject
      exact hcanonical
    | null => exact absurd hobject (by simp [asObject])
    | boolean b => exact absurd hobject (by simp [asObject])
    | integer n => exact absurd hobject (by simp [asObject])
    | text s => exact absurd hobject (by simp [asObject])
    | array items => exact absurd hobject (by simp [asObject])
    | other tag => exact absurd hobject (by simp [asObject])
  · rintro ⟨rfl, hbytes⟩
    have hloads := Document.loads_canonicalJsonBytes (inOrder_document event) hbytes
    have hkeys : event.document.map Prod.fst = frameKeys := rfl
    have hschema : Document.entry event.document "schema" = .text frameSchema := rfl
    have hattempt : Document.entry event.document "attempt_id" = .text event.attemptId.value := rfl
    simp only [decode, hloads, hbytes, asObject, Option.bind_eq_bind, Option.bind_some, hkeys,
      hschema, hattempt, decodeDocument_document, ne_eq, not_true_eq_false, if_false]
    rfl

end Jobs

end OnchainBacktest
