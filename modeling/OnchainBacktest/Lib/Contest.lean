import Mathlib.Data.List.Sort
import Mathlib.Data.List.Nodup
import Mathlib.Order.Basic

/-!
# Bids for a key

A bid is a key with the name that asks for it.  A key is contested when two names ask for it;
whether it is depends on the bids alone.  The owner of a key is the first that asks for it, and so
depends on their order too:

* `Contest.contested_concat` says what one more bid contests;
* `Contest.leastFirst_iff` says for which orders the owners are the least that ask.
-/

set_option autoImplicit false

namespace Contest

variable {κ ι : Type}

/-- Two names ask for the key. -/
def Contested (bids : List (κ × ι)) (k : κ) : Prop :=
  ∃ bid ∈ bids, ∃ bid' ∈ bids, bid.1 = k ∧ bid'.1 = k ∧ bid.2 ≠ bid'.2

instance decidableContested [DecidableEq κ] [DecidableEq ι] (bids : List (κ × ι)) (k : κ) :
    Decidable (Contested bids k) := by
  unfold Contested
  infer_instance

/-- The first name that asks for the key. -/
def owner [DecidableEq κ] (bids : List (κ × ι)) (k : κ) : Option ι :=
  (bids.find? fun bid => bid.1 = k).map Prod.snd

/-- The first name that asks for a key is the least that does. -/
def LeastFirst [DecidableEq κ] [LE ι] (bids : List (κ × ι)) : Prop :=
  ∀ bid ∈ bids, ∀ i ∈ owner bids bid.1, i ≤ bid.2

instance decidableLeastFirst [DecidableEq κ] [LE ι] [DecidableLE ι] (bids : List (κ × ι)) :
    Decidable (LeastFirst bids) := by
  unfold LeastFirst
  infer_instance

variable {bids bids' : List (κ × ι)} {k k' : κ} {i j : ι}

/-! ## What is contested -/

theorem contested_iff :
    Contested bids k ↔ ∃ i j, (k, i) ∈ bids ∧ (k, j) ∈ bids ∧ i ≠ j := by
  constructor
  · rintro ⟨⟨k₁, i⟩, hi, ⟨k₂, j⟩, hj, rfl, rfl, hne⟩
    exact ⟨i, j, hi, hj, hne⟩
  · rintro ⟨i, j, hi, hj, hne⟩
    exact ⟨_, hi, _, hj, rfl, rfl, hne⟩

/-- Whether a key is contested depends on the bids alone, not on their order or number. -/
theorem contested_congr (h : ∀ bid, bid ∈ bids ↔ bid ∈ bids') :
    Contested bids k ↔ Contested bids' k := by
  simp only [Contested, h]

/-- Only one name asks for a key that is not contested. -/
theorem eq_of_not_contested (h : ¬ Contested bids k) (hi : (k, i) ∈ bids) (hj : (k, j) ∈ bids) :
    i = j := by
  by_contra hne
  exact h (contested_iff.mpr ⟨i, j, hi, hj, hne⟩)

/-- One more bid contests its key when another name has asked for it. -/
theorem contested_concat :
    Contested (bids ++ [(k', i)]) k ↔
      Contested bids k ∨ k' = k ∧ ∃ j, (k, j) ∈ bids ∧ j ≠ i := by
  simp only [contested_iff, List.mem_append, List.mem_singleton, Prod.mk.injEq]
  constructor
  · rintro ⟨a, b, ha | ⟨rfl, rfl⟩, hb | ⟨hk, rfl⟩, hne⟩
    · exact .inl ⟨a, b, ha, hb, hne⟩
    · exact .inr ⟨hk.symm, a, ha, hne⟩
    · exact .inr ⟨rfl, b, hb, hne.symm⟩
    · exact absurd rfl hne
  · rintro (⟨a, b, ha, hb, hne⟩ | ⟨rfl, j, hj, hne⟩)
    · exact ⟨a, b, .inl ha, .inl hb, hne⟩
    · exact ⟨j, i, .inl hj, .inr ⟨rfl, rfl⟩, hne⟩

theorem contested_concat_of_ne (h : k' ≠ k) :
    Contested (bids ++ [(k', i)]) k ↔ Contested bids k := by
  rw [contested_concat]
  exact or_iff_left fun h' => h h'.1

/-- A bid made before contests nothing more. -/
theorem contested_concat_seen (h : (k', i) ∈ bids) :
    Contested (bids ++ [(k', i)]) k ↔ Contested bids k :=
  contested_congr fun bid => by
    rw [List.mem_append, List.mem_singleton]
    exact or_iff_left_of_imp fun hb => hb ▸ h

/-- A key is contested when more than one name asks for it. -/
theorem contested_iff_length {askers : List ι} (hnodup : askers.Nodup)
    (hmem : ∀ i, i ∈ askers ↔ (k, i) ∈ bids) : Contested bids k ↔ 1 < askers.length := by
  rw [contested_iff]
  constructor
  · rintro ⟨i, j, hi, hj, hne⟩
    rw [← hmem] at hi hj
    match askers, hi, hj with
    | [], hi, _ => exact absurd hi (by simp)
    | [a], hi, hj =>
      rw [List.mem_singleton] at hi hj
      exact absurd (hi.trans hj.symm) hne
    | _ :: _ :: _, _, _ => simp
  · intro hlt
    match askers, hlt, hnodup, hmem with
    | i :: j :: rest, _, hnodup, hmem =>
      refine ⟨i, j, (hmem i).mp (by simp), (hmem j).mp (by simp), ?_⟩
      rintro rfl
      simp at hnodup

/-! ## Who came first -/

variable [DecidableEq κ]

theorem owner_mem (h : owner bids k = some i) : (k, i) ∈ bids := by
  obtain ⟨bid, hbid, rfl⟩ := Option.map_eq_some_iff.mp h
  have hk : bid.1 = k := by simpa using List.find?_some hbid
  exact hk ▸ List.mem_of_find?_eq_some hbid

theorem owner_eq_none : owner bids k = none ↔ ∀ i, (k, i) ∉ bids := by
  rw [owner, Option.map_eq_none_iff, List.find?_eq_none]
  constructor
  · intro h i hi
    simpa using h _ hi
  · intro h bid hbid
    have hne : bid.1 ≠ k := fun hk => h bid.2 (hk ▸ hbid)
    simpa using hne

theorem exists_owner (h : (k, i) ∈ bids) : ∃ j, owner bids k = some j := by
  rw [← Option.isSome_iff_exists, ← Option.ne_none_iff_isSome]
  exact fun hnone => owner_eq_none.mp hnone i h

theorem owner_concat :
    owner (bids ++ [(k', i)]) k = (owner bids k).or (if k' = k then some i else none) := by
  rw [owner, owner, List.find?_append]
  cases bids.find? fun bid => bid.1 = k with
  | some bid => simp
  | none => by_cases h : k' = k <;> simp [h]

/-- A key that has been asked for keeps its owner. -/
theorem owner_concat_seen (h : (k', j) ∈ bids) : owner (bids ++ [(k', i)]) k = owner bids k := by
  rw [owner_concat]
  by_cases hk : k' = k
  · obtain ⟨o, ho⟩ := exists_owner h
    rw [← hk, ho, Option.some_or]
  · rw [if_neg hk, Option.or_none]

/-! ## Owners in the order of the names -/

/-- **Owners by name.**  The owner of every key is the least of those that ask for it exactly when
the first to ask for each key is the least. -/
theorem leastFirst_iff [LinearOrder ι] {askers : κ → List ι}
    (hsorted : ∀ k, (askers k).Pairwise (· < ·)) (hmem : ∀ k i, i ∈ askers k ↔ (k, i) ∈ bids) :
    LeastFirst bids ↔ ∀ k, owner bids k = (askers k).head? := by
  have hhead : ∀ k i j, (askers k).head? = some i → (k, j) ∈ bids → i ≤ j := by
    intro k i j hi hj
    rw [← hmem] at hj
    have hpairwise := hsorted k
    match askers k, hi, hj, hpairwise with
    | a :: rest, hi, hj, hpairwise =>
      obtain rfl : a = i := Option.some.inj hi
      rcases List.mem_cons.mp hj with rfl | hj
      · exact le_rfl
      · exact ((List.pairwise_cons.mp hpairwise).1 j hj).le
  constructor
  · intro h k
    cases ho : owner bids k with
    | none =>
      have hnil : askers k = [] := List.eq_nil_iff_forall_not_mem.mpr fun i hi =>
        owner_eq_none.mp ho i ((hmem k i).mp hi)
      rw [hnil, List.head?_nil]
    | some i =>
      have hne : askers k ≠ [] := List.ne_nil_of_mem ((hmem k i).mpr (owner_mem ho))
      have hleast := List.head?_eq_some_head hne
      have hasks := (hmem k _).mp (List.head_mem hne)
      rw [hleast, le_antisymm (h _ hasks i ho) (hhead k _ i hleast (owner_mem ho))]
  · intro h bid hbid i hi
    exact hhead bid.1 i bid.2 ((h bid.1).symm.trans hi) hbid

end Contest
