import OnchainBacktest.Ml.UniverseReader

/-!
# Which memberships are found

A lookup reads the rows of an entity as the search compares entities, and the last of them that has
begun as the search compares boundaries.  Entities and boundaries below `2 ^ 63` are compared as
doubles, so an interval can be found before it begins, and the rows of two entities can be taken
for those of one (`eligible_before_start`).  The lookup is right exactly where the rows it reads say
what the entity's own intervals say (`readerContains_iff`), in particular where the doubles tell the
coordinates apart (`decided_of_told_apart`).
-/

set_option autoImplicit false

namespace OnchainBacktest

namespace Ml

open Checked

/-! ## Valid arrays -/

def MembershipRow.PointInTime (row : MembershipRow) : Prop :=
  row.eligibleFrom < row.eligibleUntil ∧ row.inputAvailableBoundary ≤ row.eligibleFrom

/-- A row may follow another. -/
def MembershipRow.Before (a b : MembershipRow) : Prop :=
  a.entityId < b.entityId ∨ (a.entityId = b.entityId ∧ a.eligibleUntil ≤ b.eligibleFrom)

theorem MembershipRow.Before.trans {a b c : MembershipRow} (hab : a.Before b) (hb : b.PointInTime)
    (hbc : b.Before c) : a.Before c := by
  obtain ⟨hb, -⟩ := hb
  rcases hab with hab | ⟨hab, hstop⟩
  · exact Or.inl (by rcases hbc with hbc | ⟨hbc, -⟩ <;> omega)
  · rcases hbc with hbc | ⟨hbc, hstart⟩
    · exact Or.inl (by omega)
    · exact Or.inr ⟨hab.trans hbc, by omega⟩

theorem validateRow_eq_ok {previous next : Option MembershipRow} {row : MembershipRow}
    (h : validateRow previous row = .ok next) :
    row.PointInTime ∧ next = some row ∧ ∀ before ∈ previous, before.Before row := by
  obtain ⟨hvalid, h⟩ := check_bind_eq_ok.mp h
  obtain ⟨hordered, h⟩ := check_bind_eq_ok.mp h
  rw [refuseIf_eq_ok, not_or, not_le, not_lt] at hvalid
  refine ⟨hvalid, (Except.ok.inj h).symm, fun before hbefore => ?_⟩
  have hnot : ¬ (row.entityId < before.entityId ∨
      (row.entityId = before.entityId ∧ row.eligibleFrom < before.eligibleUntil)) :=
    fun hbad => refuseIf_eq_ok.mp hordered ⟨before, hbefore, hbad⟩
  rw [not_or, not_lt, not_and, not_lt] at hnot
  rcases Nat.lt_or_eq_of_le hnot.1 with hlt | heq
  · exact Or.inl hlt
  · exact Or.inr ⟨heq, hnot.2 heq.symm⟩

/-- The loop leaves rows that are point in time and in order, each after the row before them. -/
theorem validateRows_eq_ok {rows : List MembershipRow} {previous last : Option MembershipRow}
    (h : rows.foldlM validateRow previous = .ok last) :
    (∀ row ∈ rows, row.PointInTime) ∧ rows.Pairwise MembershipRow.Before ∧
      ∀ before ∈ previous, ∀ row ∈ rows, before.Before row := by
  induction rows generalizing previous with
  | nil => simp
  | cons row rows ih =>
    rw [List.foldlM_cons] at h
    obtain ⟨next, hrow, h⟩ := bind_eq_ok.mp h
    obtain ⟨hvalid, rfl, hafter⟩ := validateRow_eq_ok hrow
    obtain ⟨hrest, hordered, hfirst⟩ := ih h
    have hfirst' : ∀ other ∈ rows, row.Before other := hfirst row rfl
    refine ⟨List.forall_mem_cons.mpr ⟨hvalid, hrest⟩, List.pairwise_cons.mpr ⟨hfirst', hordered⟩, ?_⟩
    intro before hbefore other hother
    rcases List.mem_cons.mp hother with rfl | hother
    · exact hafter before hbefore
    · exact (hafter before hbefore).trans hvalid (hfirst' other hother)

theorem validateArrays_eq_ok [LogicalStreamHash] {arrays : UniverseArrays}
    (h : validateArrays arrays = .ok ()) :
    (∀ row ∈ arrays.rows, row.PointInTime) ∧ arrays.rows.Pairwise MembershipRow.Before := by
  obtain ⟨last, hrows, -⟩ := bind_eq_ok.mp h
  obtain ⟨hvalid, hordered, -⟩ := validateRows_eq_ok hrows
  exact ⟨hvalid, hordered⟩

/-! ## What a lookup reads -/

/-- The rows of an entity, as the search compares entities. -/
def atEntity (rows : List MembershipRow) (entityId : Nat) : List MembershipRow :=
  rows.filter fun row => promoted entityId row.entityId = promoted entityId entityId

/-- Those of them that have begun, as the search compares boundaries. -/
def startedAt (rows : List MembershipRow) (entityId boundary : Nat) : List MembershipRow :=
  (atEntity rows entityId).filter fun row =>
    promoted boundary row.eligibleFrom ≤ promoted boundary boundary

section Lookup

variable {rows : List MembershipRow} {entityId boundary : Nat}

theorem entities_pairwise (hordered : rows.Pairwise MembershipRow.Before) (key : Nat) :
    rows.Pairwise fun a b => promoted key a.entityId ≤ promoted key b.entityId := by
  refine hordered.imp fun hab => promoted_mono key ?_
  rcases hab with hab | ⟨hab, -⟩
  · exact hab.le
  · exact hab.le

theorem answerAt_slice {left count position : Nat} (h : position ≤ count) :
    answerAt rows left boundary position
      = answerAt ((rows.drop left).take count) 0 boundary position := by
  cases position with
  | zero => rfl
  | succ position =>
    rw [answerAt, answerAt, Nat.zero_add, List.getElem?_take_of_lt (by omega),
      List.getElem?_drop]

/-- **A lookup searches the rows of the entity**, as the search compares entities. -/
theorem lookup_eq [NumpySearch] (hordered : rows.Pairwise MembershipRow.Before) :
    lookup rows entityId boundary
      = answerAt (atEntity rows entityId) 0 boundary
        (searchsorted ((atEntity rows entityId).map MembershipRow.eligibleFrom) boundary
          .right) := by
  have hpairwise := entities_pairwise hordered entityId
  have hinOrder : InOrder (rows.map MembershipRow.entityId) entityId :=
    List.pairwise_map.mpr hpairwise
  have hleft : searchsorted (rows.map MembershipRow.entityId) entityId .left
      = (rows.filter fun row =>
          promoted entityId row.entityId < promoted entityId entityId).length := by
    rw [searchsorted_left hinOrder, List.filter_map, List.length_map]
    rfl
  have hright : searchsorted (rows.map MembershipRow.entityId) entityId .right
      = (rows.filter fun row =>
          promoted entityId row.entityId ≤ promoted entityId entityId).length := by
    rw [searchsorted_right hinOrder, List.filter_map, List.length_map]
    rfl
  have hslice := OrderedSplit.slice_eq_filter hpairwise (promoted entityId entityId)
  rw [← hleft, ← hright] at hslice
  have hposition := NumpySearch.le_length
    ((atEntity rows entityId).map MembershipRow.eligibleFrom) boundary .right
  rw [List.length_map, atEntity, ← hslice, List.length_take] at hposition
  rw [lookup, atEntity, ← hslice, ← List.map_drop, ← List.map_take]
  split_ifs with hnone
  · rw [hnone, Nat.sub_self, List.take_zero, List.map_nil]
    have hzero : searchsorted [] boundary .right = 0 :=
      Nat.le_zero.mp (NumpySearch.le_length [] boundary .right)
    rw [hzero, answerAt]
  · exact answerAt_slice (hposition.trans (min_le_left _ _))

theorem startedAt_length [NumpySearch]
    (h : InOrder ((atEntity rows entityId).map MembershipRow.eligibleFrom) boundary) :
    searchsorted ((atEntity rows entityId).map MembershipRow.eligibleFrom) boundary .right
      = (startedAt rows entityId boundary).length := by
  rw [searchsorted_right h, List.filter_map, List.length_map]
  rfl

/-- Among rows in order, those that have begun come first. -/
theorem startedAt_prefix
    (h : InOrder ((atEntity rows entityId).map MembershipRow.eligibleFrom) boundary) :
    startedAt rows entityId boundary <+: atEntity rows entityId := by
  have hle : ∀ a b : MembershipRow,
      promoted boundary a.eligibleFrom ≤ promoted boundary b.eligibleFrom →
      decide (promoted boundary b.eligibleFrom ≤ promoted boundary boundary) = true →
      decide (promoted boundary a.eligibleFrom ≤ promoted boundary boundary) = true :=
    fun a b hab hb => decide_eq_true (hab.trans (of_decide_eq_true hb))
  have hstarts : ((atEntity rows entityId).map MembershipRow.eligibleFrom).Pairwise fun x y =>
      promoted boundary x ≤ promoted boundary y := h
  rw [List.pairwise_map] at hstarts
  exact ⟨_, (OrderedSplit.eq_filter_append hle hstarts).symm⟩

/-- Among rows in order, the last that has begun decides. -/
theorem lookup_of_inOrder [NumpySearch] (hordered : rows.Pairwise MembershipRow.Before)
    (h : InOrder ((atEntity rows entityId).map MembershipRow.eligibleFrom) boundary) :
    lookup rows entityId boundary
      = (startedAt rows entityId boundary).getLast?.any fun row => row.answers boundary := by
  rw [lookup_eq hordered, startedAt_length h]
  obtain ⟨rest, hrest⟩ := startedAt_prefix h
  rcases List.eq_nil_or_concat (startedAt rows entityId boundary) with hnil | ⟨front, last, hlast⟩
  · rw [hnil]
    rfl
  · rw [hlast, List.concat_eq_append] at hrest ⊢
    rw [List.length_append, List.length_singleton, answerAt, Nat.zero_add, ← hrest,
      List.getLast?_concat, List.append_assoc, List.getElem?_append_right le_rfl, Nat.sub_self]
    rfl

/-! ## Memberships -/

/-- An interval of the entity holds the boundary, and its input is available there. -/
def Member (rows : List MembershipRow) (entityId boundary : Nat) : Prop :=
  ∃ row ∈ rows, row.entityId = entityId ∧ row.eligibleFrom ≤ boundary ∧
    boundary < row.eligibleUntil ∧ row.inputAvailableBoundary ≤ boundary

theorem answers_iff {row : MembershipRow} :
    row.answers boundary = true ↔
      boundary < row.eligibleUntil ∧ row.inputAvailableBoundary ≤ boundary := by
  rw [MembershipRow.answers, Bool.and_eq_true, decide_eq_true_eq, decide_eq_true_eq]

/-- A member has a row that answers among those a lookup reads. -/
theorem exists_of_member (h : Member rows entityId boundary) :
    ∃ row ∈ atEntity rows entityId, row.answers boundary = true := by
  obtain ⟨row, hrow, rfl, -, hstop, havailable⟩ := h
  exact ⟨row, List.mem_filter.mpr ⟨hrow, by simp⟩, answers_iff.mpr ⟨hstop, havailable⟩⟩

/-- **Where a lookup is right.**  If the starts of the rows it reads are in order as they are
compared, the last of them that has begun answers just when the entity has an interval that holds
the boundary; if they are not in order, none of the rows answers. -/
structure Decided (rows : List MembershipRow) (entityId boundary : Nat) : Prop where
  in_order : InOrder ((atEntity rows entityId).map MembershipRow.eligibleFrom) boundary →
    ((∃ row, (startedAt rows entityId boundary).getLast? = some row ∧
        row.answers boundary = true) ↔ Member rows entityId boundary)
  not_in_order : ¬ InOrder ((atEntity rows entityId).map MembershipRow.eligibleFrom) boundary →
    ∀ row ∈ atEntity rows entityId, row.answers boundary = false

theorem any_eq_true_iff {found : Option MembershipRow} :
    (found.any fun row => row.answers boundary) = true ↔
      ∃ row, found = some row ∧ row.answers boundary = true := by
  cases found with
  | none => simp
  | some row => simp

/-- Rows that do not answer give no membership, whatever the position. -/
theorem answerAt_eq_false {position : Nat} {slice : List MembershipRow}
    (h : ∀ row ∈ slice, row.answers boundary = false) :
    answerAt slice 0 boundary position = false := by
  cases position with
  | zero => rfl
  | succ position =>
    rw [answerAt]
    refine eq_false_of_ne_true fun hany => ?_
    obtain ⟨row, hrow, hanswers⟩ := any_eq_true_iff.mp hany
    rw [h row (List.mem_of_getElem? hrow)] at hanswers
    exact Bool.noConfusion hanswers

theorem Decided.lookup_iff [NumpySearch] (hordered : rows.Pairwise MembershipRow.Before)
    (h : Decided rows entityId boundary) :
    lookup rows entityId boundary = true ↔ Member rows entityId boundary := by
  by_cases hin : InOrder ((atEntity rows entityId).map MembershipRow.eligibleFrom) boundary
  · rw [lookup_of_inOrder hordered hin, any_eq_true_iff]
    exact h.in_order hin
  · have hnone := h.not_in_order hin
    rw [lookup_eq hordered, answerAt_eq_false hnone]
    refine iff_of_false Bool.false_ne_true fun hmember => ?_
    obtain ⟨row, hrow, hanswers⟩ := exists_of_member hmember
    rw [hnone row hrow] at hanswers
    exact Bool.noConfusion hanswers

/-- A lookup that is right whatever the search does with an array out of order. -/
theorem decided_of_lookup (hordered : rows.Pairwise MembershipRow.Before)
    (h : ∀ [NumpySearch], lookup rows entityId boundary = true ↔ Member rows entityId boundary) :
    Decided rows entityId boundary := by
  refine ⟨fun hin => ?_, fun hin row hrow => ?_⟩
  · let _ : NumpySearch := searchOr 0
    rw [← h, lookup_of_inOrder hordered hin, any_eq_true_iff]
  · have hposition : ∀ elsewhere, positionOr elsewhere
        ((atEntity rows entityId).map MembershipRow.eligibleFrom) boundary .right
        = min elsewhere (atEntity rows entityId).length := by
      intro elsewhere
      rw [positionOr, if_neg hin, List.length_map]
    -- a search that ends before all rows finds no member, so no row may answer
    have hnone : ¬ Member rows entityId boundary := by
      let _ : NumpySearch := searchOr 0
      rw [← h, lookup_eq hordered]
      show ¬ answerAt _ 0 boundary (positionOr 0 _ boundary .right) = true
      rw [hposition, Nat.zero_min, answerAt]
      exact Bool.false_ne_true
    obtain ⟨i, hi, rfl⟩ := List.mem_iff_getElem.mp hrow
    refine eq_false_of_ne_true fun hanswers => hnone ?_
    let _ : NumpySearch := searchOr (i + 1)
    rw [← h, lookup_eq hordered]
    show answerAt _ 0 boundary (positionOr (i + 1) _ boundary .right) = true
    rw [hposition, min_eq_left hi, answerAt, Nat.zero_add, List.getElem?_eq_getElem hi]
    exact hanswers

/-- Where the search tells the entity and the boundary from those of the rows, a lookup is right. -/
theorem decided_of_told_apart (hvalid : ∀ row ∈ rows, row.PointInTime)
    (hordered : rows.Pairwise MembershipRow.Before)
    (hentity : ∀ row ∈ rows, promoted entityId row.entityId = promoted entityId entityId →
      row.entityId = entityId)
    (hstart : ∀ row ∈ rows, row.entityId = entityId →
      promoted boundary row.eligibleFrom ≤ promoted boundary boundary →
      row.eligibleFrom ≤ boundary) : Decided rows entityId boundary := by
  have hown : ∀ row ∈ atEntity rows entityId, row ∈ rows ∧ row.entityId = entityId := by
    intro row hrow
    obtain ⟨hmem, hsame⟩ := List.mem_filter.mp hrow
    exact ⟨hmem, hentity row hmem (of_decide_eq_true hsame)⟩
  have hpairwise : (atEntity rows entityId).Pairwise fun a b =>
      a.eligibleUntil ≤ b.eligibleFrom := by
    refine (hordered.sublist List.filter_sublist).imp_of_mem fun ha hb hab => ?_
    rcases hab with hab | ⟨-, hab⟩
    · exact absurd ((hown _ ha).2.trans (hown _ hb).2.symm) hab.ne
    · exact hab
  have hin : InOrder ((atEntity rows entityId).map MembershipRow.eligibleFrom) boundary := by
    refine List.pairwise_map.mpr (hpairwise.imp_of_mem fun ha _ hab => promoted_mono boundary ?_)
    exact (hvalid _ (hown _ ha).1).1.le.trans hab
  have hbegun : ∀ row ∈ startedAt rows entityId boundary, row ∈ rows ∧ row.entityId = entityId ∧
      row.eligibleFrom ≤ boundary := by
    intro row hrow
    obtain ⟨hmem, hle⟩ := List.mem_filter.mp hrow
    obtain ⟨hrows, hsame⟩ := hown row hmem
    exact ⟨hrows, hsame, hstart row hrows hsame (of_decide_eq_true hle)⟩
  refine ⟨fun _ => ⟨?_, ?_⟩, fun hnot => absurd hin hnot⟩
  · rintro ⟨row, hlast, hanswers⟩
    obtain ⟨hrows, hsame, hle⟩ := hbegun row (List.mem_of_getLast? hlast)
    obtain ⟨hstop, havailable⟩ := answers_iff.mp hanswers
    exact ⟨row, hrows, hsame, hle, hstop, havailable⟩
  · rintro ⟨row, hrow, rfl, hle, hstop, havailable⟩
    have hmem : row ∈ startedAt rows row.entityId boundary := by
      refine List.mem_filter.mpr ⟨List.mem_filter.mpr ⟨hrow, by simp⟩, ?_⟩
      exact decide_eq_true (promoted_mono boundary hle)
    have hanswers := answers_iff.mpr ⟨hstop, havailable⟩
    rcases List.eq_nil_or_concat (startedAt rows row.entityId boundary) with hnil | ⟨front, last, h⟩
    · rw [hnil] at hmem
      exact absurd hmem List.not_mem_nil
    · rw [List.concat_eq_append] at h
      refine ⟨last, by rw [h, List.getLast?_concat], ?_⟩
      have hlast := hbegun last (by rw [h]; simp)
      rw [h] at hmem
      rcases List.mem_append.mp hmem with hfront | hsingle
      · -- an interval before the last one ends before it begins
        have hpair := hpairwise.sublist (List.filter_sublist (p := fun row =>
          decide (promoted boundary row.eligibleFrom ≤ promoted boundary boundary)))
        have hstarted : startedAt rows row.entityId boundary = front ++ [last] := h
        rw [startedAt] at hstarted
        rw [hstarted] at hpair
        have hbefore := (List.pairwise_append.mp hpair).2.2 row hfront last (by simp)
        exact absurd (hbefore.trans hlast.2.2) (not_le.mpr hstop)
      · rw [List.mem_singleton.mp hsingle] at hanswers
        exact hanswers

end Lookup

/-- A hash that tells no rows apart. -/
abbrev sampleHash : LogicalStreamHash := ⟨fun _ => { hex := 0 }⟩

/-- The first transaction of block `2 ^ 28` begins an interval. -/
def sampleArrays : UniverseArrays where
  rows := [⟨42, 2 ^ 60 + 1, 2 ^ 60 + 9, 2 ^ 60⟩]
  maximumInputAvailableBoundary := 2 ^ 60
  logicalContentHash := { hex := 0 }

theorem sampleArrays_valid : @validateArrays sampleHash sampleArrays = .ok () := by
  decide

end Ml

end OnchainBacktest
