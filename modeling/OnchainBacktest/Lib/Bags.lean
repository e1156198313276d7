import Mathlib.Data.List.Dedup
import Mathlib.Data.List.MinMax
import Mathlib.Data.List.Sort
import Mathlib.Tactic

/-!
# Bags of rows

A bag of rows is a list whose order means nothing.  `groups` is grouping by a key, `join` and
`matching` are joins, and an answer to an ordered query is its bag in some order that the ordering
allows (`Answers`).

Rows have slots, and a range of slots can be cut into adjacent shards (`Cuts`).  A grouping commutes
with the cut when no group has rows in two shards (`groups_cut`), and only then: every group that is
split is a row more (`groups_cut_iff`).
-/

set_option autoImplicit false

namespace Bags

variable {α β κ ρ : Type}

/-! ## Grouping -/

/-- The keys of the rows, each with its rows. -/
def groups [DecidableEq κ] (key : α → κ) (rows : List α) : List (κ × List α) :=
  (rows.map key).dedup.map fun k => (k, rows.filter fun row => key row = k)

/-- The pairs of rows the condition holds of. -/
def join (on : α → β → Bool) (left : List α) (right : List β) : List (α × β) :=
  left.flatMap fun a => (right.filter (on a)).map fun b => (a, b)

theorem mem_join {on : α → β → Bool} {left : List α} {right : List β} {pair : α × β} :
    pair ∈ join on left right ↔ pair.1 ∈ left ∧ pair.2 ∈ right ∧ on pair.1 pair.2 = true := by
  obtain ⟨a, b⟩ := pair
  simp [join, and_assoc]

/-- A condition on the left rows can be tested before the join or after it. -/
theorem join_filter (on : α → β → Bool) (p : α → Bool) (left : List α) (right : List β) :
    join on (left.filter p) right = (join on left right).filter fun pair => p pair.1 := by
  induction left with
  | nil => rfl
  | cons a left ih =>
    have hcons : ∀ rest, join on (a :: rest) right =
        (right.filter (on a)).map (fun b => (a, b)) ++ join on rest right := fun _ => rfl
    rw [hcons, List.filter_append, ← ih]
    by_cases ha : p a = true
    · have hkept : ((right.filter (on a)).map fun b => (a, b)).filter (fun pair => p pair.1) =
          (right.filter (on a)).map fun b => (a, b) := by
        rw [List.filter_eq_self]
        intro pair hpair
        obtain ⟨b, _, rfl⟩ := List.mem_map.mp hpair
        exact ha
      rw [List.filter_cons_of_pos ha, hcons, hkept]
    · have hdropped : ((right.filter (on a)).map fun b => (a, b)).filter (fun pair => p pair.1) =
          [] := by
        rw [List.filter_eq_nil_iff]
        intro pair hpair
        obtain ⟨b, _, rfl⟩ := List.mem_map.mp hpair
        exact ha
      rw [List.filter_cons_of_neg ha, hdropped, List.nil_append]

theorem dedup_filter [DecidableEq α] (p : α → Bool) (l : List α) :
    (l.filter p).dedup = l.dedup.filter p := by
  induction l with
  | nil => rfl
  | cons a l ih =>
    by_cases ha : p a = true
    · rw [List.filter_cons_of_pos ha]
      by_cases hmem : a ∈ l
      · rw [List.dedup_cons_of_mem hmem, List.dedup_cons_of_mem (List.mem_filter.mpr ⟨hmem, ha⟩), ih]
      · rw [List.dedup_cons_of_notMem hmem, List.filter_cons_of_pos ha,
          List.dedup_cons_of_notMem (fun h => hmem (List.mem_filter.mp h).1), ih]
    · rw [List.filter_cons_of_neg ha, ih]
      by_cases hmem : a ∈ l
      · rw [List.dedup_cons_of_mem hmem]
      · rw [List.dedup_cons_of_notMem hmem, List.filter_cons_of_neg ha]

section Groups

variable [DecidableEq κ] {key : α → κ} {rows : List α}

theorem length_groups (key : α → κ) (rows : List α) :
    (groups key rows).length = (rows.map key).toFinset.card := by
  rw [groups, List.length_map, List.card_toFinset]

/-- A group is not empty, and has the rows of its key. -/
theorem mem_groups {group : κ × List α} :
    group ∈ groups key rows ↔
      (∃ row ∈ rows, key row = group.1) ∧ group.2 = rows.filter fun row => key row = group.1 := by
  obtain ⟨k, members⟩ := group
  simp only [groups, List.mem_map, List.mem_dedup, Prod.mk.injEq]
  constructor
  · rintro ⟨k', hmem, rfl, rfl⟩
    exact ⟨hmem, rfl⟩
  · rintro ⟨hmem, hmembers⟩
    exact ⟨k, hmem, rfl, hmembers.symm⟩

theorem groups_ne_nil {group : κ × List α} (h : group ∈ groups key rows) : group.2 ≠ [] := by
  obtain ⟨⟨row, hrow, hkey⟩, hmembers⟩ := mem_groups.mp h
  rw [hmembers]
  exact List.ne_nil_of_mem (List.mem_filter.mpr ⟨hrow, by simpa using hkey⟩)

/-- The rows of a group are rows with its key. -/
theorem mem_of_mem_group {group : κ × List α} (h : group ∈ groups key rows) {row : α}
    (hrow : row ∈ group.2) : row ∈ rows ∧ key row = group.1 := by
  rw [(mem_groups.mp h).2, List.mem_filter] at hrow
  exact ⟨hrow.1, by simpa using hrow.2⟩

/-- **A condition on the key can be tested before the grouping or after it.** -/
theorem groups_filter {p : α → Bool} {f : κ → Bool} (hp : ∀ row ∈ rows, p row = f (key row)) :
    groups key (rows.filter p) = (groups key rows).filter fun group => f group.1 := by
  have hkeys : (rows.filter p).map key = (rows.map key).filter f := by
    rw [List.filter_map]
    exact congrArg (List.map key) (List.filter_congr hp)
  rw [groups, hkeys, dedup_filter, groups, List.filter_map]
  refine List.map_congr_left fun k hk => ?_
  have hf : f k = true := by simpa using (List.mem_filter.mp hk).2
  refine Prod.ext (Eq.refl k) ?_
  show (rows.filter p).filter (fun row => key row = k) = rows.filter fun row => key row = k
  rw [List.filter_filter]
  refine List.filter_congr fun row hrow => ?_
  by_cases hkey : key row = k
  · simp [hkey, hp row hrow, hf]
  · simp [hkey]

/-- What a condition says of the keys, when it says the same of all the rows of a key. -/
def ofKeys (key : α → κ) (rows : List α) (p : α → Bool) (k : κ) : Bool :=
  rows.any fun row => decide (key row = k) && p row

theorem ofKeys_key {p : α → Bool}
    (h : ∀ a ∈ rows, ∀ b ∈ rows, key a = key b → p a = p b) :
    ∀ row ∈ rows, p row = ofKeys key rows p (key row) := by
  intro row hrow
  rw [Bool.eq_iff_iff, ofKeys, List.any_eq_true]
  constructor
  · intro hp
    exact ⟨row, hrow, by simp [hp]⟩
  · rintro ⟨row', hrow', hsame⟩
    rw [Bool.and_eq_true, decide_eq_true_eq] at hsame
    rw [h row hrow row' hrow' hsame.1.symm, hsame.2]

/-- **Groups that a condition does not split are those of either side.** -/
theorem groups_split {p : α → Bool}
    (h : ∀ a ∈ rows, ∀ b ∈ rows, key a = key b → p a = p b) :
    (groups key rows).Perm
      (groups key (rows.filter p) ++ groups key (rows.filter fun row => !p row)) := by
  have hp := ofKeys_key h
  have hnot : ∀ row ∈ rows, (!p row) = !ofKeys key rows p (key row) := by
    intro row hrow
    rw [hp row hrow]
  rw [groups_filter hp, @groups_filter _ _ _ _ _ _ (fun k => !ofKeys key rows p k) hnot]
  exact (List.filter_append_perm _ _).symm

/-- Either side has as many groups as there are, and one more for each group that is split. -/
theorem length_groups_split (p : α → Bool) :
    (groups key rows).length ≤
        (groups key (rows.filter p)).length + (groups key (rows.filter fun row => !p row)).length ∧
      ((groups key rows).length =
          (groups key (rows.filter p)).length + (groups key (rows.filter fun row => !p row)).length →
        ∀ a ∈ rows, ∀ b ∈ rows, key a = key b → p a = p b) := by
  have hunion : (rows.map key).toFinset =
      ((rows.filter p).map key).toFinset ∪ ((rows.filter fun row => !p row).map key).toFinset := by
    ext k
    simp only [List.mem_toFinset, List.mem_map, Finset.mem_union, List.mem_filter]
    constructor
    · rintro ⟨row, hrow, rfl⟩
      by_cases hp : p row = true
      · exact .inl ⟨row, ⟨hrow, hp⟩, rfl⟩
      · exact .inr ⟨row, ⟨hrow, by simp [hp]⟩, rfl⟩
    · rintro (⟨row, ⟨hrow, _⟩, rfl⟩ | ⟨row, ⟨hrow, _⟩, rfl⟩)
      · exact ⟨row, hrow, rfl⟩
      · exact ⟨row, hrow, rfl⟩
  have hcard := Finset.card_union_add_card_inter ((rows.filter p).map key).toFinset
    ((rows.filter fun row => !p row).map key).toFinset
  rw [← hunion] at hcard
  simp only [length_groups]
  refine ⟨by omega, fun heq a ha b hb hkey => ?_⟩
  have hempty : ((rows.filter p).map key).toFinset ∩
      ((rows.filter fun row => !p row).map key).toFinset = ∅ := by
    rw [← Finset.card_eq_zero]
    omega
  -- A key on both sides would be in the intersection.
  have hboth : ∀ x ∈ rows, ∀ y ∈ rows, key x = key y → p x = true → p y = true := by
    intro x hx y hy hxy hpx
    by_contra hpy
    have hmem : key x ∈ ((rows.filter p).map key).toFinset ∩
        ((rows.filter fun row => !p row).map key).toFinset := by
      simp only [Finset.mem_inter, List.mem_toFinset, List.mem_map, List.mem_filter]
      exact ⟨⟨x, ⟨hx, hpx⟩, rfl⟩, y, ⟨hy, by simpa using hpy⟩, hxy.symm⟩
    rw [hempty] at hmem
    exact absurd hmem (Finset.notMem_empty _)
  exact Bool.eq_iff_iff.mpr ⟨hboth a ha b hb hkey, hboth b hb a ha hkey.symm⟩

end Groups

/-! ## Cuts of a range of slots -/

/-- A half-open range of slots. -/
structure Slots where
  start : Nat
  stop : Nat

def Slots.contains (slots : Slots) (slot : Nat) : Bool := slots.start ≤ slot && slot < slots.stop

@[simp] theorem Slots.contains_iff {slots : Slots} {slot : Nat} :
    slots.contains slot = true ↔ slots.start ≤ slot ∧ slot < slots.stop := by
  simp [Slots.contains]

/-- Adjacent ranges have no slot in common. -/
theorem Slots.contains_adjacent {start middle stop slot : Nat} :
    ¬ (Slots.contains ⟨start, middle⟩ slot = true ∧ Slots.contains ⟨middle, stop⟩ slot = true) := by
  rw [contains_iff, contains_iff]
  rintro ⟨⟨_, hlt⟩, hge, _⟩
  exact absurd hlt (not_lt.mpr hge)

/-- The shards are adjacent and make up the range. -/
inductive Cuts : Slots → List Slots → Prop
  | nil (slot : Nat) : Cuts ⟨slot, slot⟩ []
  | cons {start middle stop : Nat} {shards : List Slots} (hlt : start < middle)
      (rest : Cuts ⟨middle, stop⟩ shards) : Cuts ⟨start, stop⟩ (⟨start, middle⟩ :: shards)

theorem Cuts.le {slots : Slots} {shards : List Slots} (h : Cuts slots shards) :
    slots.start ≤ slots.stop := by
  induction h with
  | nil => exact le_refl _
  | cons hlt _ ih => exact hlt.le.trans ih

/-- A cut lies within its range. -/
theorem Cuts.within {slots : Slots} {shards : List Slots} (h : Cuts slots shards) :
    ∀ shard ∈ shards, slots.start ≤ shard.start ∧ shard.stop ≤ slots.stop := by
  induction h with
  | nil => simp
  | cons hlt rest ih =>
    intro shard hshard
    rcases List.mem_cons.mp hshard with rfl | hshard
    · exact ⟨le_refl _, rest.le⟩
    · exact ⟨hlt.le.trans (ih shard hshard).1, (ih shard hshard).2⟩

section Selection

variable {slot : α → Nat} {rows : List α}

/-- The rows of a range. -/
def selectSlots (slot : α → Nat) (slots : Slots) (rows : List α) : List α :=
  rows.filter fun row => slots.contains (slot row)

theorem mem_selectSlots {slots : Slots} {row : α} :
    row ∈ selectSlots slot slots rows ↔
      row ∈ rows ∧ slots.start ≤ slot row ∧ slot row < slots.stop := by
  rw [selectSlots, List.mem_filter, Slots.contains_iff]

/-- The rows before and after a slot of the range. -/
theorem selectSlots_split {start middle stop : Nat} (hlo : start ≤ middle) (hhi : middle ≤ stop) :
    selectSlots slot ⟨start, middle⟩ rows =
        (selectSlots slot ⟨start, stop⟩ rows).filter (fun row => decide (slot row < middle)) ∧
      selectSlots slot ⟨middle, stop⟩ rows =
        (selectSlots slot ⟨start, stop⟩ rows).filter
          (fun row => !decide (slot row < middle)) := by
  simp only [selectSlots, List.filter_filter]
  constructor
  · refine List.filter_congr fun row _ => ?_
    rw [Bool.eq_iff_iff]
    simp only [Slots.contains_iff, Bool.and_eq_true, decide_eq_true_eq]
    omega
  · refine List.filter_congr fun row _ => ?_
    rw [Bool.eq_iff_iff]
    simp only [Slots.contains_iff, Bool.and_eq_true, Bool.not_eq_true', decide_eq_false_iff_not]
    omega

/-- Rows of one key lie in the same shard. -/
def Unsplit (slot : α → Nat) (key : α → κ) (shards : List Slots) (rows : List α) : Prop :=
  ∀ a ∈ rows, ∀ b ∈ rows, key a = key b →
    ∀ shard ∈ shards, shard.contains (slot a) = shard.contains (slot b)

/-- Keys that no shard splits are not split where the first shard ends. -/
theorem Unsplit.head {key : α → κ} {start middle stop : Nat} {shards : List Slots}
    (h : Unsplit slot key (⟨start, middle⟩ :: shards) (selectSlots slot ⟨start, stop⟩ rows)) :
    ∀ a ∈ selectSlots slot ⟨start, stop⟩ rows, ∀ b ∈ selectSlots slot ⟨start, stop⟩ rows,
      key a = key b → decide (slot a < middle) = decide (slot b < middle) := by
  intro a ha b hb hkey
  have hsame := h a ha b hb hkey ⟨start, middle⟩ List.mem_cons_self
  have hstart := (mem_selectSlots.mp ha).2.1
  have hstart' := (mem_selectSlots.mp hb).2.1
  simpa [Slots.contains, hstart, hstart'] using hsame

theorem Unsplit.tail {key : α → κ} {start middle stop : Nat} {shards : List Slots}
    (hle : start ≤ middle)
    (h : Unsplit slot key (⟨start, middle⟩ :: shards) (selectSlots slot ⟨start, stop⟩ rows)) :
    Unsplit slot key shards (selectSlots slot ⟨middle, stop⟩ rows) := by
  have hsub : ∀ a ∈ selectSlots slot ⟨middle, stop⟩ rows,
      a ∈ selectSlots slot ⟨start, stop⟩ rows := by
    intro a ha
    obtain ⟨hmem, hge, hlt⟩ := mem_selectSlots.mp ha
    exact mem_selectSlots.mpr ⟨hmem, hle.trans hge, hlt⟩
  exact fun a ha b hb hkey shard hshard =>
    h a (hsub a ha) b (hsub b hb) hkey shard (List.mem_cons_of_mem _ hshard)

/-- Keys that are split neither where the first shard ends nor after it are not split at all. -/
theorem Unsplit.cons {key : α → κ} {start middle stop : Nat} {shards : List Slots}
    (hcuts : Cuts ⟨middle, stop⟩ shards)
    (hhead : ∀ a ∈ selectSlots slot ⟨start, stop⟩ rows,
      ∀ b ∈ selectSlots slot ⟨start, stop⟩ rows, key a = key b →
        decide (slot a < middle) = decide (slot b < middle))
    (htail : Unsplit slot key shards (selectSlots slot ⟨middle, stop⟩ rows)) :
    Unsplit slot key (⟨start, middle⟩ :: shards) (selectSlots slot ⟨start, stop⟩ rows) := by
  intro a ha b hb hkey shard hshard
  have hsame := hhead a ha b hb hkey
  rw [decide_eq_decide] at hsame
  obtain ⟨hmem, hstart, hstop⟩ := mem_selectSlots.mp ha
  obtain ⟨hmem', hstart', hstop'⟩ := mem_selectSlots.mp hb
  rcases List.mem_cons.mp hshard with rfl | hshard
  · rw [Bool.eq_iff_iff, Slots.contains_iff, Slots.contains_iff]
    show start ≤ slot a ∧ slot a < middle ↔ start ≤ slot b ∧ slot b < middle
    exact ⟨fun h => ⟨hstart', hsame.mp h.2⟩, fun h => ⟨hstart, hsame.mpr h.2⟩⟩
  · by_cases hlt : slot a < middle
    · -- Both rows come before the later shards.
      have hlt' := hsame.mp hlt
      have hge : middle ≤ shard.start := (hcuts.within shard hshard).1
      rw [Bool.eq_iff_iff, Slots.contains_iff, Slots.contains_iff]
      omega
    · have hlt' : ¬ slot b < middle := fun h => hlt (hsame.mpr h)
      exact htail a (mem_selectSlots.mpr ⟨hmem, not_lt.mp hlt, hstop⟩) b
        (mem_selectSlots.mpr ⟨hmem', not_lt.mp hlt', hstop'⟩) hkey shard hshard

/-- **What adds up where the first shard ends adds up over the cut.** -/
theorem Cuts.additive {q : Slots → List ρ} {P : Slots → List Slots → Prop}
    (hempty : ∀ at_, q ⟨at_, at_⟩ = [])
    (hstep : ∀ {start middle stop : Nat} {shards : List Slots}, start < middle → middle ≤ stop →
      P ⟨start, stop⟩ (⟨start, middle⟩ :: shards) →
      (q ⟨start, stop⟩).Perm (q ⟨start, middle⟩ ++ q ⟨middle, stop⟩) ∧ P ⟨middle, stop⟩ shards)
    {slots : Slots} {shards : List Slots} (h : Cuts slots shards) (hP : P slots shards) :
    (shards.flatMap q).Perm (q slots) := by
  induction h with
  | nil at_ => rw [hempty, List.flatMap_nil]
  | cons hlt rest ih =>
    obtain ⟨hsplit, hrest⟩ := hstep hlt rest.le hP
    exact ((ih hrest).append_left _).trans hsplit.symm

theorem selectSlots_empty (at_ : Nat) : selectSlots slot ⟨at_, at_⟩ rows = [] := by
  rw [selectSlots, List.filter_eq_nil_iff]
  intro row _
  rw [Slots.contains_iff]
  exact fun h => absurd (h.1.trans_lt h.2) (lt_irrefl _)

/-- **The rows of a range are those of its shards.** -/
theorem selectSlots_cut {slots : Slots} {shards : List Slots} (h : Cuts slots shards) :
    (shards.flatMap fun shard => selectSlots slot shard rows).Perm (selectSlots slot slots rows) := by
  refine @Cuts.additive _ (fun shard => selectSlots slot shard rows) (fun _ _ => True)
    selectSlots_empty (fun hlt hle _ => ⟨?_, trivial⟩) _ _ h trivial
  obtain ⟨hlo, hhi⟩ := @selectSlots_split _ slot rows _ _ _ hlt.le hle
  rw [hlo, hhi]
  exact (List.filter_append_perm _ _).symm

variable [DecidableEq κ] {key : α → κ}

/-- **Groups that no shard splits are those of the shards.** -/
theorem groups_cut {slots : Slots} {shards : List Slots} (h : Cuts slots shards)
    (hunsplit : Unsplit slot key shards (selectSlots slot slots rows)) :
    (shards.flatMap fun shard => groups key (selectSlots slot shard rows)).Perm
      (groups key (selectSlots slot slots rows)) := by
  refine @Cuts.additive _ (fun shard => groups key (selectSlots slot shard rows))
    (fun slots shards => Unsplit slot key shards (selectSlots slot slots rows)) ?_
    (fun hlt hle hP => ⟨?_, hP.tail hlt.le⟩) _ _ h hunsplit
  · intro at_
    rw [selectSlots_empty]
    rfl
  · obtain ⟨hlo, hhi⟩ := @selectSlots_split _ slot rows _ _ _ hlt.le hle
    rw [hlo, hhi]
    exact groups_split hP.head

/-- **Shards have a group more for each that is split.** -/
theorem length_groups_cut {slots : Slots} {shards : List Slots} (h : Cuts slots shards) :
    (groups key (selectSlots slot slots rows)).length ≤
        (shards.flatMap fun shard => groups key (selectSlots slot shard rows)).length ∧
      ((groups key (selectSlots slot slots rows)).length =
          (shards.flatMap fun shard => groups key (selectSlots slot shard rows)).length →
        Unsplit slot key shards (selectSlots slot slots rows)) := by
  induction h with
  | nil at_ =>
    rw [selectSlots_empty]
    exact ⟨le_refl _, fun _ a ha => (List.not_mem_nil ha).elim⟩
  | @cons start middle stop shards hlt rest ih =>
    have hmiddle : middle ≤ stop := rest.le
    obtain ⟨hlo, hhi⟩ := @selectSlots_split _ slot rows _ _ _ hlt.le hmiddle
    obtain ⟨hle, heq⟩ := @length_groups_split _ _ _ key (selectSlots slot ⟨start, stop⟩ rows)
      fun row => decide (slot row < middle)
    rw [← hlo, ← hhi] at hle heq
    rw [List.flatMap_cons, List.length_append]
    refine ⟨by omega, fun hlength => ?_⟩
    exact Unsplit.cons rest (heq (by omega)) (ih.2 (by omega))

/-- **A query over the groups adds up over a cut exactly when no shard splits a group.** -/
theorem groups_cut_iff {slots : Slots} {shards : List Slots} (h : Cuts slots shards)
    (f : κ × List α → ρ) :
    (shards.flatMap fun shard => (groups key (selectSlots slot shard rows)).map f).Perm
        ((groups key (selectSlots slot slots rows)).map f) ↔
      Unsplit slot key shards (selectSlots slot slots rows) := by
  rw [← List.map_flatMap]
  constructor
  · intro hperm
    have hlength := hperm.length_eq
    rw [List.length_map, List.length_map] at hlength
    exact (length_groups_cut h).2 hlength.symm
  · intro hunsplit
    exact (groups_cut h hunsplit).map f

end Selection

/-! ## Answers to an ordered query -/

section Answers

variable {σ : Type} [LinearOrder σ] {order : ρ → σ}

/-- The rows are those of the bag, in an order the ordering allows. -/
structure Answers (order : ρ → σ) (bag rows : List ρ) : Prop where
  perm : rows.Perm bag
  sorted : rows.Pairwise fun a b => order a ≤ order b

/-- **Two answers have the same rows in the same order up to ties.** -/
theorem Answers.unique {bag rows rows' : List ρ} (h : Answers order bag rows)
    (h' : Answers order bag rows') : rows.Perm rows' ∧ rows.map order = rows'.map order := by
  have hperm := h.perm.trans h'.perm.symm
  exact ⟨hperm, (hperm.map order).eq_of_pairwise' (List.pairwise_map.mpr h.sorted)
    (List.pairwise_map.mpr h'.sorted)⟩

theorem exists_answers (order : ρ → σ) (bag : List ρ) : ∃ rows, Answers order bag rows := by
  refine ⟨bag.mergeSort fun a b => decide (order a ≤ order b), List.mergeSort_perm _ _, ?_⟩
  have hsorted := @List.pairwise_mergeSort _ (fun a b => decide (order a ≤ order b))
    (fun a b c hab hbc => by simpa using (of_decide_eq_true hab).trans (of_decide_eq_true hbc))
    (fun a b => by simpa using le_total (order a) (order b)) bag
  exact hsorted.imp of_decide_eq_true

end Answers

end Bags
