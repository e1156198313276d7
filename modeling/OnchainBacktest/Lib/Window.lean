import Mathlib.Data.List.Induction
import Mathlib.Data.List.Basic

/-!
# Windows

Items that come one after the other, each with a key and a time.  An item that is admitted opens a
window for its key, and an item is admitted exactly outside the open window (`Windowed`).

What follows does not depend on how the windows are kept: admitted items of one key are spaced by
the width of a window (`Windowed.spaced`), and what is admitted for a key can be computed from the
times of that key alone (`Windowed.own`).
-/

set_option autoImplicit false

universe u

/-- An item, and whether it was admitted. -/
structure WindowItem (κ : Type u) where
  key : κ
  time : Nat
  admitted : Bool
  deriving DecidableEq

section Window

variable {κ : Type u} [DecidableEq κ] (width : Nat)

/-- When the last item of a key was admitted. -/
def lastAdmitted (items : List (WindowItem κ)) (k : κ) : Option Nat :=
  (items.filter fun a => a.admitted && decide (a.key = k)).getLast?.map WindowItem.time

/-- Every item is admitted exactly outside the window of its key. -/
def Windowed (items : List (WindowItem κ)) : Prop :=
  ∀ before a after, items = before ++ a :: after →
    (a.admitted = false ↔ ∃ opened ∈ lastAdmitted before a.key, a.time < opened + width)

variable {width} {items : List (WindowItem κ)} {a : WindowItem κ}

@[simp] theorem lastAdmitted_nil (k : κ) : lastAdmitted ([] : List (WindowItem κ)) k = none := rfl

theorem lastAdmitted_concat (items : List (WindowItem κ)) (a : WindowItem κ) (k : κ) :
    lastAdmitted (items ++ [a]) k
      = if a.admitted = true ∧ a.key = k then some a.time else lastAdmitted items k := by
  rw [lastAdmitted, List.filter_append]
  by_cases h : a.admitted = true ∧ a.key = k
  · rw [if_pos h, List.filter_singleton]
    simp [h.1, h.2]
  · have hno : (a.admitted && decide (a.key = k)) = false := by
      rw [Bool.and_eq_false_iff, decide_eq_false_iff_not]
      by_cases ha : a.admitted = true
      · exact .inr fun hk => h ⟨ha, hk⟩
      · exact .inl (Bool.not_eq_true _ ▸ ha)
    rw [if_neg h, List.filter_singleton, hno]
    simp [lastAdmitted]

theorem windowed_nil : Windowed width ([] : List (WindowItem κ)) := by
  intro before a after h
  cases before <;> cases h

/-- **One more item is admitted by the windows that are open.** -/
theorem windowed_concat : Windowed width (items ++ [a]) ↔ Windowed width items ∧
    (a.admitted = false ↔ ∃ opened ∈ lastAdmitted items a.key, a.time < opened + width) := by
  constructor
  · intro h
    refine ⟨fun before b after he => ?_, h items a [] rfl⟩
    exact h before b (after ++ [a]) (by rw [he, List.append_assoc, List.cons_append])
  · rintro ⟨h, ha⟩ before b after he
    rcases List.eq_nil_or_concat after with rfl | ⟨after', c, rfl⟩
    · obtain ⟨rfl, hb⟩ := List.append_inj' he rfl
      cases hb
      exact ha
    · rw [List.concat_eq_append, ← List.cons_append, ← List.append_assoc] at he
      obtain ⟨rfl, _⟩ := List.append_inj' he rfl
      exact h before b after' rfl

theorem Windowed.init (h : Windowed width (items ++ [a])) : Windowed width items :=
  (windowed_concat.mp h).1

/-- No admitted item is later than the last one of its key. -/
theorem Windowed.le_last (h : Windowed width items) {b : WindowItem κ} (hb : b ∈ items)
    (hadmitted : b.admitted = true) : ∃ opened ∈ lastAdmitted items b.key, b.time ≤ opened := by
  induction items using List.reverseRecOn with
  | nil => cases hb
  | append_singleton items a ih =>
    rw [lastAdmitted_concat]
    split
    · rename_i ha
      refine ⟨a.time, rfl, ?_⟩
      rcases List.mem_append.mp hb with hb | hb
      · obtain ⟨opened, hopened, hle⟩ := ih h.init hb
        have hout := (windowed_concat.mp h).2
        rw [ha.1, ha.2] at hout
        have hge : opened + width ≤ a.time := by
          by_contra hlt
          cases hout.mpr ⟨opened, hopened, by omega⟩
        omega
      · exact Nat.le_of_eq (congrArg WindowItem.time (List.mem_singleton.mp hb))
    · rename_i ha
      rcases List.mem_append.mp hb with hb | hb
      · exact ih h.init hb
      · cases List.mem_singleton.mp hb
        exact absurd ⟨hadmitted, rfl⟩ ha

/-- **Admitted items of one key are at least a window apart.** -/
theorem Windowed.spaced (h : Windowed width items) :
    items.Pairwise fun a b => a.key = b.key → a.admitted = true → b.admitted = true →
      a.time + width ≤ b.time := by
  induction items using List.reverseRecOn with
  | nil => exact List.Pairwise.nil
  | append_singleton items a ih =>
    refine List.pairwise_append.mpr ⟨ih h.init, List.pairwise_singleton _ _, ?_⟩
    intro b hb c hc hkey hadmitted hc'
    cases List.mem_singleton.mp hc
    obtain ⟨opened, hopened, hle⟩ := h.init.le_last hb hadmitted
    have hout := (windowed_concat.mp h).2
    rw [hc', ← hkey] at hout
    by_contra hlt
    cases hout.mpr ⟨opened, hopened, by omega⟩

/-! ## One key -/

variable (width) in
/-- Admit one time of a key whose window was opened at `state.1`. -/
def admitTime (state : Option Nat × List Bool) (time : Nat) : Option Nat × List Bool :=
  if ∃ opened ∈ state.1, time < opened + width then (state.1, state.2 ++ [false])
  else (some time, state.2 ++ [true])

variable (width) in
/-- What is admitted of the times of one key. -/
def admitTimes (times : List Nat) : List Bool := (times.foldl (admitTime width) (none, [])).2

/-- The items of one key. -/
def itemsOf (items : List (WindowItem κ)) (k : κ) : List (WindowItem κ) :=
  items.filter fun a => decide (a.key = k)

/-- **What is admitted for a key depends on its own times only.** -/
theorem Windowed.own (h : Windowed width items) (k : κ) :
    (itemsOf items k).map WindowItem.admitted
      = admitTimes width ((itemsOf items k).map WindowItem.time) := by
  have hstate : ((itemsOf items k).map WindowItem.time).foldl (admitTime width) (none, [])
      = (lastAdmitted items k, (itemsOf items k).map WindowItem.admitted) := by
    induction items using List.reverseRecOn with
    | nil => rfl
    | append_singleton items a ih =>
      have hwindow := (windowed_concat.mp h).2
      rw [lastAdmitted_concat, itemsOf, List.filter_append, List.filter_singleton]
      by_cases hk : a.key = k
      · rw [decide_eq_true hk]
        simp only [cond_true, List.map_append, List.map_cons, List.map_nil, List.foldl_append,
          List.foldl_cons, List.foldl_nil]
        rw [← itemsOf, ih h.init, admitTime]
        rw [hk] at hwindow
        by_cases hin : ∃ opened ∈ lastAdmitted items k, a.time < opened + width
        · rw [if_pos hin, hwindow.mpr hin, if_neg (by simp)]
        · have hadmitted : a.admitted = true :=
            (Bool.not_eq_false _).mp fun hf => hin (hwindow.mp hf)
          rw [if_neg hin, hadmitted, if_pos ⟨rfl, hk⟩]
      · rw [decide_eq_false hk, if_neg fun hc => hk hc.2]
        simp only [cond_false, List.append_nil]
        rw [← itemsOf]
        exact ih h.init
  rw [admitTimes, hstate]

end Window
