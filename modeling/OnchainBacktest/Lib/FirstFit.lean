import Mathlib.Algebra.BigOperators.Group.Finset.Basic
import Mathlib.Data.Finset.Max
import Mathlib.Data.List.Sort
import Mathlib.Tactic

/-!
# First fit

Items of a weight are offered in order and each is taken when it still fits under a limit; one that
does not fit is passed over and the next is tried.  `FirstFit.take` is this loop.

What it takes is determined by the order alone: an offered item is taken just when it fits
after the taken items before it (`IsFirstFit`), and one set at most does so (`IsFirstFit.unique`).
`take_isFirstFit` says that the loop over a sorted list finds that set.
-/

set_option autoImplicit false

namespace FirstFit

universe u

variable {α : Type u} [LinearOrder α] {w : α → ℕ} {limit : ℕ}

/-- In the order of the list, take what still fits. -/
def take (w : α → ℕ) (limit : ℕ) : List α → ℕ → List α
  | [], _ => []
  | a :: rest, used =>
    if limit < used + w a then take w limit rest used
    else a :: take w limit rest (used + w a)

/-- An offered item is taken just when it fits after the taken items before it. -/
structure IsFirstFit (w : α → ℕ) (limit : ℕ) (offered taken : Finset α) : Prop where
  subset : taken ⊆ offered
  mem_iff : ∀ a ∈ offered, a ∈ taken ↔ (∑ b ∈ taken with b < a, w b) + w a ≤ limit

/-- **One set at most is taken by first fit.** -/
theorem IsFirstFit.unique {offered taken taken' : Finset α}
    (h : IsFirstFit w limit offered taken) (h' : IsFirstFit w limit offered taken') :
    taken = taken' := by
  by_contra hne
  -- the least item on which the two disagree
  have hdiff : (offered.filter fun a => ¬ (a ∈ taken ↔ a ∈ taken')).Nonempty := by
    by_contra hempty
    rw [Finset.not_nonempty_iff_eq_empty, Finset.filter_eq_empty_iff] at hempty
    refine hne (Finset.ext fun a => ?_)
    by_cases ha : a ∈ offered
    · exact not_not.mp (hempty ha)
    · exact iff_of_false (fun hm => ha (h.subset hm)) fun hm => ha (h'.subset hm)
  obtain ⟨ha, hdis⟩ := Finset.mem_filter.mp (Finset.min'_mem _ hdiff)
  have hbelow : ∀ b ∈ offered, b < Finset.min' _ hdiff → (b ∈ taken ↔ b ∈ taken') := by
    intro b hb hlt
    by_contra hn
    exact absurd (Finset.min'_le _ b (Finset.mem_filter.mpr ⟨hb, hn⟩)) (not_le.mpr hlt)
  have hsame : taken.filter (· < Finset.min' _ hdiff) = taken'.filter (· < Finset.min' _ hdiff) := by
    ext b
    rw [Finset.mem_filter, Finset.mem_filter]
    constructor
    · rintro ⟨hb, hlt⟩
      exact ⟨(hbelow b (h.subset hb) hlt).mp hb, hlt⟩
    · rintro ⟨hb, hlt⟩
      exact ⟨(hbelow b (h'.subset hb) hlt).mpr hb, hlt⟩
  rw [h.mem_iff _ ha, h'.mem_iff _ ha, hsame] at hdis
  exact hdis Iff.rfl

omit [LinearOrder α] in
theorem take_subset (items : List α) (used : ℕ) : ∀ a ∈ take w limit items used, a ∈ items := by
  induction items generalizing used with
  | nil => exact fun a ha => ha
  | cons x rest ih =>
    intro a ha
    rw [take] at ha
    split at ha
    · exact List.mem_cons_of_mem _ (ih used a ha)
    · rcases List.mem_cons.mp ha with rfl | ha
      · exact List.mem_cons_self
      · exact List.mem_cons_of_mem _ (ih _ a ha)

/-- What the loop takes of a sorted list, when it starts with some of the limit used. -/
theorem mem_take_iff {items : List α} (hsorted : items.Pairwise (· < ·)) (used : ℕ) {a : α}
    (ha : a ∈ items) : a ∈ take w limit items used ↔
      used + (∑ b ∈ (take w limit items used).toFinset with b < a, w b) + w a ≤ limit := by
  induction items generalizing used with
  | nil => exact absurd ha List.not_mem_nil
  | cons x rest ih =>
    obtain ⟨hx, hrest⟩ := List.pairwise_cons.mp hsorted
    have habove : ∀ u, (take w limit rest u).toFinset.filter (· < x) = ∅ := by
      intro u
      refine Finset.filter_eq_empty_iff.mpr fun b hb hlt => ?_
      exact absurd (hx b (take_subset rest u b (List.mem_toFinset.mp hb))) (not_lt_of_gt hlt)
    have hnew : ∀ u, x ∉ take w limit rest u := by
      intro u hmem
      exact lt_irrefl x (hx x (take_subset rest u x hmem))
    rw [take]
    split
    · rename_i hover
      rcases List.mem_cons.mp ha with rfl | ha
      · rw [habove, Finset.sum_empty]
        exact iff_of_false (hnew used) (by omega)
      · exact ih hrest used ha
    · rename_i hfits
      rw [List.toFinset_cons, Finset.filter_insert]
      rcases List.mem_cons.mp ha with rfl | ha
      · rw [if_neg (lt_irrefl a), habove, Finset.sum_empty]
        exact iff_of_true List.mem_cons_self (by omega)
      · have hlt : x < a := hx a ha
        have hnotin : x ∉ (take w limit rest (used + w x)).toFinset.filter (· < a) := fun hm =>
          hnew _ (List.mem_toFinset.mp (Finset.mem_filter.mp hm).1)
        rw [if_pos hlt, Finset.sum_insert hnotin, List.mem_cons,
          or_iff_right hlt.ne', ih hrest (used + w x) ha]
        constructor <;> intro h <;> omega

/-- **The loop over a sorted list takes by first fit.** -/
theorem take_isFirstFit {items : List α} (hsorted : items.Pairwise (· < ·)) :
    IsFirstFit w limit items.toFinset (take w limit items 0).toFinset where
  subset := fun a ha => List.mem_toFinset.mpr (take_subset items 0 a (List.mem_toFinset.mp ha))
  mem_iff := by
    intro a ha
    rw [List.mem_toFinset, mem_take_iff hsorted 0 (List.mem_toFinset.mp ha), Nat.zero_add]

end FirstFit
