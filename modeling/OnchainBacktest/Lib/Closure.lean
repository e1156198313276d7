import Mathlib.Logic.Relation
import Mathlib.Data.List.Basic
import OnchainBacktest.Lib.Checked
import OnchainBacktest.Lib.Dict

/-!
# Transitive closure over a finite table

A table gives each of its keys a row, and a row names further keys.  `Closure.walk` follows the
names from a stack of keys until nothing is left to visit, and stops at the first key the table has
no row for.

`Closure.Reaches` is what the walk is to find: the keys connected to a root by naming.  The walk
returns exactly when every connected key has a row (`Closure.walk_returns_iff`), and what it
returns are the connected keys (`Closure.mem_walk_iff`).
-/

set_option autoImplicit false

namespace Closure

universe u

variable {α : Type} {ν : Type u} [DecidableEq α]

/-! ## The walk -/

theorem unvisited_lt {keys visited : List α} {a : α} (hkey : a ∈ keys) (hnew : a ∉ visited) :
    (keys.filter (· ∉ a :: visited)).length < (keys.filter (· ∉ visited)).length := by
  have hsplit : keys.filter (· ∉ a :: visited) = (keys.filter (· ∉ visited)).filter (· ≠ a) := by
    rw [List.filter_filter]
    refine List.filter_congr fun b _ => ?_
    simp [not_or]
  rw [hsplit]
  refine List.length_filter_lt_length_iff_exists.mpr ⟨a, ?_, ?_⟩
  · exact List.mem_filter.mpr ⟨hkey, by simpa using hnew⟩
  · simp

/-- Visit what is pending, and what it names. -/
def walk (d : Dict α ν) (names : ν → List α) (visited pending : List α) : Except α (List α) :=
  match pending with
  | [] => .ok visited
  | a :: pending =>
    if _hseen : a ∈ visited then walk d names visited pending
    else
      match _hrow : d.get? a with
      | none => .error a
      | some row => walk d names (a :: visited) (names row ++ pending)
termination_by ((d.keys.filter (· ∉ visited)).length, pending.length)
decreasing_by
  · exact Prod.Lex.right _ (Nat.lt_succ_self _)
  · refine Prod.Lex.left _ _ (unvisited_lt ?_ _hseen)
    by_contra hkey
    rw [Dict.get?_eq_none_iff.mpr hkey] at _hrow
    cases _hrow

/-! ## What it is to find -/

/-- The row of one key names the other. -/
def Names (d : Dict α ν) (names : ν → List α) (a b : α) : Prop :=
  ∃ row, d.get? a = some row ∧ b ∈ names row

/-- One key leads to the other by naming. -/
def Reaches (d : Dict α ν) (names : ν → List α) : α → α → Prop :=
  Relation.ReflTransGen (Names d names)

variable {d : Dict α ν} {names : ν → List α}

/-- What a walk returns: it contains what was visited and what was pending, every key it added has
a row whose names it contains, and it added only what the pending keys reach. -/
structure Walked (d : Dict α ν) (names : ν → List α) (visited pending result : List α) :
    Prop where
  kept : ∀ a ∈ visited, a ∈ result
  found : ∀ a ∈ pending, a ∈ result
  closed : ∀ a ∈ result, a ∉ visited → ∃ row, d.get? a = some row ∧ ∀ b ∈ names row, b ∈ result
  reached : ∀ a ∈ result, a ∉ visited → ∃ b ∈ pending, Reaches d names b a
  nodup : visited.Nodup → result.Nodup

theorem walk_ok (visited pending : List α) {result : List α}
    (h : walk d names visited pending = .ok result) : Walked d names visited pending result := by
  induction visited, pending using walk.induct d names with
  | case1 visited =>
    rw [walk] at h
    obtain rfl := Except.ok.inj h
    exact ⟨fun _ ha => ha, fun _ ha => absurd ha List.not_mem_nil, fun a ha hn => absurd ha hn,
      fun a ha hn => absurd ha hn, id⟩
  | case2 visited a pending hseen ih =>
    rw [walk, dif_pos hseen] at h
    have hw := ih h
    refine ⟨hw.kept, ?_, hw.closed, ?_, hw.nodup⟩
    · intro b hb
      rcases List.mem_cons.mp hb with rfl | hb
      · exact hw.kept b hseen
      · exact hw.found b hb
    · intro b hb hn
      obtain ⟨c, hc, hr⟩ := hw.reached b hb hn
      exact ⟨c, List.mem_cons_of_mem _ hc, hr⟩
  | case3 visited a pending hnew hrow =>
    rw [walk, dif_neg hnew] at h
    split at h
    · cases h
    · rename_i row' hrow'
      rw [hrow] at hrow'
      cases hrow'
  | case4 visited a pending hnew row hrow ih =>
    rw [walk, dif_neg hnew] at h
    split at h
    · cases h
    · rename_i row' hrow'
      obtain rfl := Option.some.inj (hrow.symm.trans hrow')
      have hw := ih h
      have ha : a ∈ result := hw.kept a List.mem_cons_self
      refine ⟨fun b hb => hw.kept b (List.mem_cons_of_mem _ hb), ?_, ?_, ?_, ?_⟩
      · intro b hb
        rcases List.mem_cons.mp hb with rfl | hb
        · exact ha
        · exact hw.found b (List.mem_append_right _ hb)
      · intro b hb hn
        by_cases hba : b = a
        · subst hba
          exact ⟨row, hrow, fun c hc => hw.found c (List.mem_append_left _ hc)⟩
        · exact hw.closed b hb (by simp [hba, hn])
      · intro b hb hn
        by_cases hba : b = a
        · subst hba
          exact ⟨b, List.mem_cons_self, Relation.ReflTransGen.refl⟩
        · obtain ⟨c, hc, hr⟩ := hw.reached b hb (by simp [hba, hn])
          rcases List.mem_append.mp hc with hc | hc
          · exact ⟨a, List.mem_cons_self, Relation.ReflTransGen.head ⟨row, hrow, hc⟩ hr⟩
          · exact ⟨c, List.mem_cons_of_mem _ hc, hr⟩
      · intro hnd
        exact hw.nodup (List.nodup_cons.mpr ⟨hnew, hnd⟩)

/-- A walk stops at a key without a row that something pending reaches. -/
theorem walk_error (visited pending : List α) {missing : α}
    (h : walk d names visited pending = .error missing) :
    d.get? missing = none ∧ ∃ b ∈ pending, Reaches d names b missing := by
  induction visited, pending using walk.induct d names with
  | case1 visited =>
    rw [walk] at h
    cases h
  | case2 visited a pending hseen ih =>
    rw [walk, dif_pos hseen] at h
    obtain ⟨hmissing, b, hb, hr⟩ := ih h
    exact ⟨hmissing, b, List.mem_cons_of_mem _ hb, hr⟩
  | case3 visited a pending hnew hrow =>
    rw [walk, dif_neg hnew] at h
    split at h
    · cases h
      exact ⟨hrow, _, List.mem_cons_self, Relation.ReflTransGen.refl⟩
    · rename_i row' hrow'
      rw [hrow] at hrow'
      cases hrow'
  | case4 visited a pending hnew row hrow ih =>
    rw [walk, dif_neg hnew] at h
    split at h
    · rename_i hrow'
      rw [hrow] at hrow'
      cases hrow'
    · rename_i row' hrow'
      obtain rfl := Option.some.inj (hrow.symm.trans hrow')
      obtain ⟨hmissing, b, hb, hr⟩ := ih h
      rcases List.mem_append.mp hb with hb | hb
      · exact ⟨hmissing, a, List.mem_cons_self, Relation.ReflTransGen.head ⟨row, hrow, hb⟩ hr⟩
      · exact ⟨hmissing, b, List.mem_cons_of_mem _ hb, hr⟩

/-! ## From a list of roots -/

/-- **What a walk from some roots returns are the keys the roots reach.** -/
theorem mem_walk_iff {roots result : List α} (h : walk d names [] roots = .ok result) {a : α} :
    a ∈ result ↔ ∃ root ∈ roots, Reaches d names root a := by
  have hw := walk_ok [] roots h
  constructor
  · intro ha
    exact hw.reached a ha List.not_mem_nil
  · rintro ⟨root, hroot, hr⟩
    induction hr with
    | refl => exact hw.found root hroot
    | tail _ hedge ih =>
      obtain ⟨row, hrow, hb⟩ := hedge
      obtain ⟨row', hrow', hclosed⟩ := hw.closed _ ih List.not_mem_nil
      obtain rfl := Option.some.inj (hrow.symm.trans hrow')
      exact hclosed _ hb

/-- **A walk from some roots returns exactly when every key they reach has a row.** -/
theorem walk_returns_iff {roots : List α} :
    (∃ result, walk d names [] roots = .ok result) ↔
      ∀ root ∈ roots, ∀ a, Reaches d names root a → ∃ row, d.get? a = some row := by
  constructor
  · rintro ⟨result, h⟩ root hroot a hr
    obtain ⟨row, hrow, -⟩ := (walk_ok [] roots h).closed a
      ((mem_walk_iff h).mpr ⟨root, hroot, hr⟩) List.not_mem_nil
    exact ⟨row, hrow⟩
  · intro h
    cases hwalk : walk d names [] roots with
    | ok result => exact ⟨result, rfl⟩
    | error missing =>
      obtain ⟨hmissing, root, hroot, hr⟩ := walk_error [] roots hwalk
      obtain ⟨row, hrow⟩ := h root hroot missing hr
      rw [hmissing] at hrow
      cases hrow

end Closure
