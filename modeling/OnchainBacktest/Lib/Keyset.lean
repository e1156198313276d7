import Mathlib.Data.List.Pairwise
import OnchainBacktest.Lib.Checked

/-!
# Tables that are appended to in key order

A table whose rows come in strictly increasing key order, and which refuses a row that does not go
above the last one.  It takes all the rows it is given exactly when their keys strictly increase
(`appendAll_eq_ok`).
-/

set_option autoImplicit false

namespace Keyset

open Checked

variable {ρ κ ε : Type} [LinearOrder κ]

/-- The rows of a table, and the key of the last one. -/
structure Table (ρ κ : Type) where
  rows : List ρ
  last : Option κ

/-- The table without a row. -/
def Table.empty : Table ρ κ := ⟨[], none⟩

/-- Append one row; its key has to go above the last one. -/
def append (key : ρ → κ) (fault : ε) (table : Table ρ κ) (row : ρ) : Except ε (Table ρ κ) := do
  refuseIf (∃ last ∈ table.last, key row ≤ last) fault
  .ok ⟨table.rows ++ [row], some (key row)⟩

/-- Append rows in the order they come. -/
def appendAll (key : ρ → κ) (fault : ε) (rows : List ρ) : Except ε (Table ρ κ) :=
  rows.foldlM (append key fault) Table.empty

variable {key : ρ → κ} {fault : ε}

/-- A row is taken exactly when its key goes above the last one. -/
theorem append_eq_ok {table table' : Table ρ κ} {row : ρ} :
    append key fault table row = .ok table' ↔
      (∀ last ∈ table.last, last < key row) ∧ table' = ⟨table.rows ++ [row], some (key row)⟩ := by
  rw [append, check_bind_eq_ok, refuseIf_eq_ok, Except.ok.injEq, eq_comm (b := table')]
  simp

/-- Rows are taken after those of a table exactly when all the keys strictly increase. -/
theorem foldlM_append_eq_ok (rows : List ρ) {table table' : Table ρ κ} :
    rows.foldlM (append key fault) table = .ok table' ↔
      (table.last.toList ++ rows.map key).Pairwise (· < ·) ∧
        table' = ⟨table.rows ++ rows, ((rows.map key).getLast?).or table.last⟩ := by
  induction rows generalizing table with
  | nil =>
    obtain ⟨held, last⟩ := table
    cases last <;> simp [pure, Except.pure, eq_comm]
  | cons row rest ih =>
    rw [List.foldlM_cons, bind_eq_ok]
    simp only [append_eq_ok, ih]
    have hlast : ((row :: rest).map key).getLast?.or table.last
        = (rest.map key).getLast?.or (some (key row)) := by
      cases rest <;> simp [List.getLast?_cons]
    constructor
    · rintro ⟨_, ⟨habove, rfl⟩, hsorted, rfl⟩
      refine ⟨?_, by rw [hlast, List.append_assoc, List.singleton_append]⟩
      cases hheld : table.last with
      | none => simpa [hheld] using hsorted
      | some held =>
        have hlt := habove held hheld
        simp only [Option.toList_some, List.singleton_append, List.pairwise_cons,
          List.map_cons] at hsorted ⊢
        refine ⟨fun k hk => ?_, hsorted⟩
        rcases List.mem_cons.mp hk with rfl | hk
        · exact hlt
        · exact hlt.trans (hsorted.1 k hk)
    · rintro ⟨hsorted, rfl⟩
      refine ⟨_, ⟨fun held hheld => ?_, rfl⟩, ?_,
        by rw [hlast, List.append_assoc, List.singleton_append]⟩
      · rw [Option.mem_def.mp hheld] at hsorted
        exact (List.pairwise_cons.mp hsorted).1 _ (by simp)
      · exact (List.pairwise_append.mp hsorted).2.1

/-- **Rows are taken exactly when their keys strictly increase**, and the table then holds them as
they came. -/
theorem appendAll_eq_ok {rows : List ρ} {table : Table ρ κ} :
    appendAll key fault rows = .ok table ↔
      (rows.map key).Pairwise (· < ·) ∧ table = ⟨rows, (rows.map key).getLast?⟩ := by
  rw [appendAll, foldlM_append_eq_ok, Table.empty, Option.toList_none, List.nil_append,
    List.nil_append, Option.or_none]

/-- A table takes all its rows exactly when their keys strictly increase. -/
theorem appendAll_iff {rows : List ρ} :
    (∃ table, appendAll key fault rows = .ok table ∧ table.rows = rows) ↔
      (rows.map key).Pairwise (· < ·) := by
  simp only [appendAll_eq_ok]
  exact ⟨fun ⟨_, ⟨h, _⟩, _⟩ => h, fun h => ⟨_, ⟨h, rfl⟩, rfl⟩⟩

end Keyset
