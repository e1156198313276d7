import Mathlib.Data.Prod.Lex
import Mathlib.Data.String.Basic
import OnchainBacktest.Lib.Bisect
import OnchainBacktest.Lib.Checked
import OnchainBacktest.Domain.Faults
import OnchainBacktest.Domain.Identifiers

/-!
# Point-in-time scalars

Rows of numbers that become available at a boundary each, and the as-of lookup over them.  A lookup
bisects the rows of one name and entity, which are sorted by their boundaries; it gives the value of
the last row that is available (`valueAt_eq`), so rows that become available later do not matter
(`valueAt_agree`).
-/

set_option autoImplicit false

namespace OnchainBacktest

namespace Reference

open Checked

/-- `CausalScalarProvider.value_at`: by name, entity and boundary. -/
abbrev CausalScalarProvider := String → Nat → Nat → Option Int

/-- `EmptyCausalScalarProvider`. -/
def emptyCausalScalarProvider : CausalScalarProvider := fun _ _ _ => none

/-- A facade bound to one boundary: what it looks up is as of that boundary. -/
structure CausalScalarView where
  lookup : String → Nat → Option Int
  boundEntityId : Option Nat

namespace CausalScalarView

/-- The constructor of a view. -/
def asOf (provider : CausalScalarProvider) (boundaryOrdinal : Nat) (boundEntityId : Option Nat) :
    CausalScalarView :=
  ⟨fun name entityId => provider name entityId boundaryOrdinal, boundEntityId⟩

def value (view : CausalScalarView) (name : String) (entityId : Nat) :
    Except Fault (Option Int) := do
  refuseIf (nonemptyTrimmed name = false)
    (.value "scalar name must be non-empty and trimmed")
  .ok (view.lookup name entityId)

/-- The scalar of the current event row, if one is bound. -/
def current (view : CausalScalarView) (name : String) : Except Fault (Option Int) :=
  match view.boundEntityId with
  | none => .error (.assertion "causal scalar view is not bound to a current event row")
  | some entityId => view.value name entityId

end CausalScalarView

structure CausalScalarRow where
  name : String
  entityId : Nat
  availableBoundaryOrdinal : Nat
  value : Option Int
  name_trimmed : nonemptyTrimmed name = true

/-- The coordinates rows are ordered by. -/
def CausalScalarRow.key (row : CausalScalarRow) : String ×ₗ Nat ×ₗ Nat :=
  toLex (row.name, toLex (row.entityId, row.availableBoundaryOrdinal))

/-- `InMemoryCausalScalarProvider`: rows in canonical order with distinct coordinates. -/
structure InMemoryCausalScalarProvider where
  rows : List CausalScalarRow
  ordered : rows.Pairwise fun a b => a.key < b.key

namespace InMemoryCausalScalarProvider

/-- The constructor of a provider. -/
def make (rows : List CausalScalarRow) : Except Fault InMemoryCausalScalarProvider :=
  if h : rows.Pairwise fun a b => a.key < b.key then .ok ⟨rows, h⟩
  else if rows.Pairwise fun a b => a.key ≤ b.key then
    .error (.value "causal scalar coordinates must be unique")
  else .error (.value "causal scalar rows must be in canonical order")

/-- The rows of one name and entity. -/
def rowsOf (provider : InMemoryCausalScalarProvider) (name : String) (entityId : Nat) :
    List CausalScalarRow :=
  provider.rows.filter fun row => row.name == name && row.entityId == entityId

/-- `value_at`. -/
def valueAt (provider : InMemoryCausalScalarProvider) : CausalScalarProvider :=
  fun name entityId boundaryOrdinal =>
    let rows := provider.rowsOf name entityId
    let ordinals := rows.map (·.availableBoundaryOrdinal)
    match Bisect.bisectRight ordinals boundaryOrdinal with
    | 0 => none
    | position + 1 => rows[position]?.bind (·.value)

/-! ## What a lookup gives -/

variable {provider : InMemoryCausalScalarProvider} {name : String} {entityId : Nat}

/-- The rows of one name and entity become available one after the other. -/
theorem rowsOf_increasing : (provider.rowsOf name entityId).Pairwise fun a b =>
    a.availableBoundaryOrdinal < b.availableBoundaryOrdinal := by
  refine List.Pairwise.imp_of_mem (fun {a b} ha hb hlt => ?_) (provider.ordered.filter _)
  rw [rowsOf, List.mem_filter, Bool.and_eq_true, beq_iff_eq, beq_iff_eq] at ha hb
  rw [CausalScalarRow.key, CausalScalarRow.key, ha.2.1, ha.2.2, hb.2.1, hb.2.2] at hlt
  simpa [Prod.Lex.lt_iff] using hlt

theorem takeWhile_available {rows : List CausalScalarRow} (h : rows.Pairwise fun a b =>
    a.availableBoundaryOrdinal < b.availableBoundaryOrdinal) (boundaryOrdinal : Nat) :
    rows.takeWhile (fun row => decide (row.availableBoundaryOrdinal ≤ boundaryOrdinal)) =
      rows.filter fun row => decide (row.availableBoundaryOrdinal ≤ boundaryOrdinal) := by
  induction rows with
  | nil => rfl
  | cons row rest ih =>
    obtain ⟨hrow, hrest⟩ := List.pairwise_cons.mp h
    by_cases havailable : row.availableBoundaryOrdinal ≤ boundaryOrdinal
    · rw [List.takeWhile_cons, List.filter_cons, if_pos (decide_eq_true havailable),
        if_pos (decide_eq_true havailable), ih hrest]
    · have hnone : rest.filter
          (fun row => decide (row.availableBoundaryOrdinal ≤ boundaryOrdinal)) = [] := by
        refine List.filter_eq_nil_iff.mpr fun later hlater => ?_
        have hlt := hrow later hlater
        simp only [decide_eq_true_eq]
        omega
      rw [List.takeWhile_cons, List.filter_cons, if_neg (by simpa using havailable),
        if_neg (by simpa using havailable), hnone]

/-- **A lookup gives the value of the last row that is available by then.** -/
theorem valueAt_eq (boundaryOrdinal : Nat) : provider.valueAt name entityId boundaryOrdinal =
    ((provider.rowsOf name entityId).filter fun row =>
      decide (row.availableBoundaryOrdinal ≤ boundaryOrdinal)).getLast?.bind (·.value) := by
  rw [← takeWhile_available rowsOf_increasing, valueAt]
  have hbisect : Bisect.bisectRight
      ((provider.rowsOf name entityId).map (·.availableBoundaryOrdinal)) boundaryOrdinal =
      ((provider.rowsOf name entityId).takeWhile fun row =>
        decide (row.availableBoundaryOrdinal ≤ boundaryOrdinal)).length := by
    rw [Bisect.bisectRight, List.takeWhile_map, List.length_map]
    rfl
  rw [hbisect]
  have hbegins := List.takeWhile_prefix (l := provider.rowsOf name entityId)
    fun row => decide (row.availableBoundaryOrdinal ≤ boundaryOrdinal)
  generalize (provider.rowsOf name entityId).takeWhile _ = available at hbegins
  cases hlength : available.length with
  | zero =>
    rw [List.length_eq_zero_iff.mp hlength]
    rfl
  | succ position =>
    have hlast : available.getLast? = available[position]? := by
      rw [List.getLast?_eq_getElem?, hlength, Nat.add_sub_cancel]
    dsimp only
    obtain ⟨later, hlater⟩ := hbegins
    rw [hlast, ← hlater, List.getElem?_append_left (by omega)]

/-- The row a lookup reads is one of its name and entity that is available by then, and none that is
available by then became available after it. -/
theorem valueAt_spec {boundaryOrdinal : Nat} {value : Int}
    (h : provider.valueAt name entityId boundaryOrdinal = some value) :
    ∃ row ∈ provider.rows, row.name = name ∧ row.entityId = entityId ∧
      row.availableBoundaryOrdinal ≤ boundaryOrdinal ∧ row.value = some value ∧
      ∀ other ∈ provider.rows, other.name = name → other.entityId = entityId →
        other.availableBoundaryOrdinal ≤ boundaryOrdinal →
        other.availableBoundaryOrdinal ≤ row.availableBoundaryOrdinal := by
  rw [valueAt_eq] at h
  obtain ⟨row, hlast, hvalue⟩ := Option.bind_eq_some_iff.mp h
  obtain ⟨earlier, hrows⟩ := List.getLast?_eq_some_iff.mp hlast
  have hsorted : (provider.rowsOf name entityId).Pairwise fun a b =>
      a.availableBoundaryOrdinal < b.availableBoundaryOrdinal := rowsOf_increasing
  have hpairs := hsorted.filter fun row => decide (row.availableBoundaryOrdinal ≤ boundaryOrdinal)
  rw [hrows, List.pairwise_append] at hpairs
  have hmem : ∀ other, other ∈ earlier ++ [row] ↔ other ∈ provider.rows ∧ other.name = name ∧
      other.entityId = entityId ∧ other.availableBoundaryOrdinal ≤ boundaryOrdinal := by
    intro other
    rw [← hrows, List.mem_filter, rowsOf, List.mem_filter, Bool.and_eq_true, beq_iff_eq,
      beq_iff_eq, decide_eq_true_eq, and_assoc, and_assoc]
  obtain ⟨hrow, hname, hentity, havailable⟩ := (hmem row).mp (by simp)
  refine ⟨row, hrow, hname, hentity, havailable, hvalue, fun other hother hn he ha => ?_⟩
  rcases List.mem_append.mp ((hmem other).mpr ⟨hother, hn, he, ha⟩) with hin | hin
  · exact (hpairs.2.2 other hin row (List.mem_singleton_self row)).le
  · rw [List.mem_singleton.mp hin]

/-- Two providers agree up to a boundary when they have the same rows available by then. -/
def AgreeUpTo (provider provider' : InMemoryCausalScalarProvider) (boundary : Nat) : Prop :=
  (provider.rows.filter fun row => decide (row.availableBoundaryOrdinal ≤ boundary)) =
    provider'.rows.filter fun row => decide (row.availableBoundaryOrdinal ≤ boundary)

/-- **Rows that become available later do not matter.** -/
theorem valueAt_agree {provider' : InMemoryCausalScalarProvider} {boundary : Nat}
    (h : provider.AgreeUpTo provider' boundary) {boundaryOrdinal : Nat}
    (hle : boundaryOrdinal ≤ boundary) :
    provider.valueAt name entityId boundaryOrdinal =
      provider'.valueAt name entityId boundaryOrdinal := by
  have hnarrow : ∀ rows : List CausalScalarRow, ((rows.filter fun row =>
      row.name == name && row.entityId == entityId).filter fun row =>
        decide (row.availableBoundaryOrdinal ≤ boundaryOrdinal)) =
      ((rows.filter fun row => decide (row.availableBoundaryOrdinal ≤ boundary)).filter
        fun row => row.name == name && row.entityId == entityId).filter fun row =>
          decide (row.availableBoundaryOrdinal ≤ boundaryOrdinal) := by
    intro rows
    rw [List.filter_filter, List.filter_filter, List.filter_filter]
    refine List.filter_congr fun row _ => ?_
    by_cases ha : row.availableBoundaryOrdinal ≤ boundaryOrdinal
    · simp [ha, ha.trans hle]
    · simp [ha]
  rw [valueAt_eq, valueAt_eq, rowsOf, rowsOf, hnarrow, hnarrow provider'.rows, h]

end InMemoryCausalScalarProvider

end Reference

end OnchainBacktest
