import Mathlib.Data.List.Perm.Subperm
import OnchainBacktest.Lib.Closure

/-!
# The search for a cycle in a finite table

A table gives each of its keys a row, and a row names further keys.  `CycleSearch.visit` follows
the names of a key depth first, with two sets of marks that all the calls share: the keys on the
path that is followed, and the keys that are done with.  `CycleSearch.search` does this from each
root in turn.

The path is what makes a fault true: every key on it leads to the key that is visited next, so one
that comes up again is on a cycle (`visit_explained`).  The keys that are done with are what makes
the success true: every path from such a key comes to an end (`visit_ok`).  And since no key is on
the path twice, calls that are nested as deep as there are keys, and one more, are enough
(`visit_depth`).  So the search succeeds exactly when every key the roots reach has a row and is on
no cycle (`search_eq_ok_iff`).
-/

set_option autoImplicit false

namespace CycleSearch

open Checked Closure Relation

universe u

variable {α : Type} {ν : Type u} [DecidableEq α]

/-! ## The search -/

/-- What a search stops with: a key that leads back to itself, a key without a row, or more nested
calls than there is room for. -/
inductive Stop (α : Type)
  | cycle
  | missing (key : α)
  | depth
  deriving DecidableEq, Repr

/-- The keys on the path that is followed, and the keys that are done with. -/
structure Marks (α : Type) where
  visiting : List α
  visited : List α
  deriving DecidableEq, Repr

/-- Visit a key, with room for `depth` nested calls. -/
def visit (d : Dict α ν) (names : ν → List α) : Nat → Marks α → α → Except (Stop α) (Marks α)
  | 0, _, _ => .error .depth
  | depth + 1, marks, a =>
    if a ∈ marks.visiting then .error .cycle
    else if a ∈ marks.visited then .ok marks
    else
      match d.get? a with
      | none => .error (.missing a)
      | some row => do
        let marks ← (names row).foldlM (visit d names depth) ⟨a :: marks.visiting, marks.visited⟩
        .ok ⟨marks.visiting.erase a, a :: marks.visited⟩

/-- Visit each root. -/
def search (d : Dict α ν) (names : ν → List α) (depth : Nat) (roots : List α) :
    Except (Stop α) (Marks α) :=
  roots.foldlM (visit d names depth) ⟨[], []⟩

variable {d : Dict α ν} {names : ν → List α}

/-- **What a visit comes to.**  A key that is done with changes nothing; a new one has a row, and
is done with after the keys it names. -/
theorem visit_eq_ok {depth : Nat} {marks marks' : Marks α} {a : α}
    (h : visit d names (depth + 1) marks a = .ok marks') :
    a ∉ marks.visiting ∧ (a ∈ marks.visited ∧ marks' = marks ∨
      a ∉ marks.visited ∧ ∃ row after, d.get? a = some row ∧
        (names row).foldlM (visit d names depth) ⟨a :: marks.visiting, marks.visited⟩ = .ok after ∧
        marks' = ⟨after.visiting.erase a, a :: after.visited⟩) := by
  rw [visit] at h
  split at h
  · simp at h
  · rename_i hpath
    refine ⟨hpath, ?_⟩
    split at h
    · rename_i hdone
      exact .inl ⟨hdone, (Except.ok.inj h).symm⟩
    · rename_i hnew
      split at h
      · simp at h
      · rename_i row hrow
        obtain ⟨after, hafter, h⟩ := bind_eq_ok.mp h
        exact .inr ⟨hnew, row, after, hrow, hafter, (Except.ok.inj h).symm⟩

/-- Where a visit stops: the key is on the path, has no row, or names a key whose visit stops. -/
theorem visit_eq_error {depth : Nat} {marks : Marks α} {a : α} {stop : Stop α}
    (h : visit d names (depth + 1) marks a = .error stop) :
    a ∈ marks.visiting ∧ stop = .cycle ∨ a ∉ marks.visiting ∧ a ∉ marks.visited ∧
      (d.get? a = none ∧ stop = .missing a ∨ ∃ row, d.get? a = some row ∧
        (names row).foldlM (visit d names depth) ⟨a :: marks.visiting, marks.visited⟩
          = .error stop) := by
  rw [visit] at h
  split at h
  · rename_i hpath
    exact .inl ⟨hpath, (Except.error.inj h).symm⟩
  · rename_i hpath
    refine .inr ⟨hpath, ?_⟩
    split at h
    · simp at h
    · rename_i hnew
      refine ⟨hnew, ?_⟩
      split at h
      · rename_i hrow
        exact .inl ⟨hrow, (Except.error.inj h).symm⟩
      · rename_i row hrow
        rcases bind_eq_error.mp h with h | ⟨after, -, h⟩
        · exact .inr ⟨row, hrow, h⟩
        · simp at h

/-! ## What it finds -/

/-- Every path from the key comes to an end, at a key whose row names none. -/
inductive Ends (d : Dict α ν) (names : ν → List α) : α → Prop
  | intro (a : α) (row : ν) (hrow : d.get? a = some row) (h : ∀ b ∈ names row, Ends d names b) :
    Ends d names a

theorem Ends.named {a b : α} (h : Ends d names a) (hab : Names d names a b) :
    Ends d names b := by
  obtain ⟨row, hrow, hb⟩ := hab
  obtain ⟨_, row', hrow', hends⟩ := h
  obtain rfl := Option.some.inj (hrow.symm.trans hrow')
  exact hends b hb

theorem Ends.reached {a b : α} (h : Ends d names a) (hab : Reaches d names a b) :
    Ends d names b := by
  induction hab with
  | refl => exact h
  | tail _ hbc ih => exact ih.named hbc

/-- A key whose paths end is not on a cycle. -/
theorem Ends.not_cycle {a : α} (h : Ends d names a) : ¬ TransGen (Names d names) a a := by
  induction h with
  | intro a row hrow _ ih =>
    intro hcycle
    obtain ⟨b, hab, hba⟩ := TransGen.head'_iff.mp hcycle
    have hnamed := hab
    obtain ⟨row', hrow', hb⟩ := hnamed
    obtain rfl := Option.some.inj (hrow.symm.trans hrow')
    exact ih b hb (TransGen.tail' hba hab)

/-- What a visit or a search of some keys does to the marks. -/
structure Visited (d : Dict α ν) (names : ν → List α) (marks : Marks α) (roots : List α)
    (marks' : Marks α) : Prop where
  visiting : marks'.visiting = marks.visiting
  kept : ∀ b ∈ marks.visited, b ∈ marks'.visited
  found : ∀ a ∈ roots, a ∈ marks'.visited
  ends : (∀ b ∈ marks.visited, Ends d names b) → ∀ b ∈ marks'.visited, Ends d names b

/-- A loop of visits does what its visits do. -/
theorem Visited.fold {body : Marks α → α → Except (Stop α) (Marks α)}
    (step : ∀ marks marks' a, body marks a = .ok marks' → Visited d names marks [a] marks')
    (roots : List α) {marks marks' : Marks α} (h : roots.foldlM body marks = .ok marks') :
    Visited d names marks roots marks' := by
  induction roots generalizing marks with
  | nil =>
    obtain rfl := Except.ok.inj h
    exact ⟨rfl, fun _ hb => hb, by simp, fun h => h⟩
  | cons a rest ih =>
    rw [List.foldlM_cons] at h
    obtain ⟨between, hbetween, h⟩ := bind_eq_ok.mp h
    have hfirst := step marks between a hbetween
    have hrest := ih h
    refine ⟨hrest.visiting.trans hfirst.visiting, fun b hb => hrest.kept b (hfirst.kept b hb), ?_,
      fun hends => hrest.ends (hfirst.ends hends)⟩
    intro b hb
    rcases List.mem_cons.mp hb with rfl | hb
    · exact hrest.kept b (hfirst.found b List.mem_cons_self)
    · exact hrest.found b hb

/-- **A key that is done with leads to an end.**  A visit puts the path back, and adds only keys
all of whose paths end. -/
theorem visit_ok (depth : Nat) {marks marks' : Marks α} {a : α}
    (h : visit d names depth marks a = .ok marks') : Visited d names marks [a] marks' := by
  induction depth generalizing marks marks' a with
  | zero => simp [visit] at h
  | succ depth ih =>
    obtain ⟨-, ⟨hdone, rfl⟩ | ⟨-, row, after, hrow, hafter, rfl⟩⟩ := visit_eq_ok h
    · exact ⟨rfl, fun _ hb => hb, by simpa using hdone, fun hends => hends⟩
    · have hnamed := Visited.fold (fun _ _ _ => ih) (names row) hafter
      refine ⟨?_, fun b hb => List.mem_cons_of_mem _ (hnamed.kept b hb), by simp, ?_⟩
      · rw [hnamed.visiting, List.erase_cons_head]
      · intro hends b hb
        rcases List.mem_cons.mp hb with rfl | hb
        · exact .intro b row hrow fun c hc => hnamed.ends hends c (hnamed.found c hc)
        · exact hnamed.ends hends b hb

/-- What the stop of a visit of a key says. -/
def Explained (d : Dict α ν) (names : ν → List α) (a : α) : Stop α → Prop
  | .cycle => ∃ b, Reaches d names a b ∧ TransGen (Names d names) b b
  | .missing b => Reaches d names a b ∧ d.get? b = none
  | .depth => True

theorem Explained.head {a b : α} {stop : Stop α} (hab : Names d names a b)
    (h : Explained d names b stop) : Explained d names a stop := by
  cases stop with
  | cycle =>
    obtain ⟨c, hbc, hc⟩ := h
    exact ⟨c, ReflTransGen.head hab hbc, hc⟩
  | missing c => exact ⟨ReflTransGen.head hab h.1, h.2⟩
  | depth => trivial

/-- **A stop is true.**  When every key on the path leads to the key that is visited, a cycle that
is reported is one. -/
theorem visit_explained (depth : Nat) {marks : Marks α} {a : α} {stop : Stop α}
    (hpath : ∀ b ∈ marks.visiting, TransGen (Names d names) b a)
    (h : visit d names depth marks a = .error stop) : Explained d names a stop := by
  induction depth generalizing marks a stop with
  | zero =>
    obtain rfl := Except.error.inj h
    trivial
  | succ depth ih =>
    obtain ⟨hon, rfl⟩ | ⟨-, -, ⟨hrow, rfl⟩ | ⟨row, hrow, hnamed⟩⟩ := visit_eq_error h
    · exact ⟨a, ReflTransGen.refl, hpath a hon⟩
    · exact ⟨ReflTransGen.refl, hrow⟩
    · -- the path is `a` and what led to `a` before every one of its names
      refine foldlM_error (P := fun rest s => (∀ b ∈ rest, b ∈ names row) ∧
        s.visiting = a :: marks.visiting) ?_ ?_ (names row) _ stop ⟨fun _ hb => hb, rfl⟩ hnamed
      · rintro b rest s s' ⟨hin, hvisiting⟩ hs
        exact ⟨fun c hc => hin c (List.mem_cons_of_mem _ hc),
          (visit_ok depth hs).visiting.trans hvisiting⟩
      · rintro b rest s stop' ⟨hin, hvisiting⟩ hs
        have hab : Names d names a b := ⟨row, hrow, hin b List.mem_cons_self⟩
        refine (ih (fun c hc => ?_) hs).head hab
        rw [hvisiting] at hc
        rcases List.mem_cons.mp hc with rfl | hc
        · exact TransGen.single hab
        · exact (hpath c hc).tail hab

/-! ## Room for the calls -/

omit [DecidableEq α] in
/-- A path has no key twice and only keys of the table, so it is no longer than the table. -/
theorem length_path {path : List α} (hnodup : path.Nodup) (hkeys : ∀ b ∈ path, b ∈ d.keys) :
    path.length ≤ d.keys.length := (hnodup.subperm hkeys).length_le

/-- **One call more than there are keys is room enough.** -/
theorem visit_depth (depth : Nat) {marks : Marks α} {a : α} (hnodup : marks.visiting.Nodup)
    (hkeys : ∀ b ∈ marks.visiting, b ∈ d.keys)
    (hroom : d.keys.length < depth + marks.visiting.length) :
    visit d names depth marks a ≠ .error .depth := by
  induction depth generalizing marks a with
  | zero =>
    have hlength := length_path hnodup hkeys
    omega
  | succ depth ih =>
    intro h
    obtain ⟨-, hstop⟩ | ⟨hpath, -, ⟨-, hstop⟩ | ⟨row, hrow, hnamed⟩⟩ := visit_eq_error h
    · simp at hstop
    · simp at hstop
    · have hkey : a ∈ d.keys := by
        by_contra hkey
        simp [Dict.get?_eq_none_iff.mpr hkey] at hrow
      refine foldlM_error (P := fun (_ : List α) (s : Marks α) => s.visiting = a :: marks.visiting)
        (Q := fun stop : Stop α => stop ≠ .depth) ?_ ?_ (names row) _ .depth (Eq.refl _) hnamed rfl
      · intro b rest s s' hvisiting hs
        exact (visit_ok depth hs).visiting.trans hvisiting
      · rintro b rest s stop hvisiting hs rfl
        refine ih ?_ ?_ ?_ hs
        · rw [hvisiting]
          exact List.nodup_cons.mpr ⟨hpath, hnodup⟩
        · rw [hvisiting]
          exact List.forall_mem_cons.mpr ⟨hkey, hkeys⟩
        · rw [hvisiting, List.length_cons]
          omega

omit [DecidableEq α] in
/-- Two loops agree when their bodies agree wherever one body does not stop with a given fault,
and its loop does not. -/
theorem fold_agree {body body' : Marks α → α → Except (Stop α) (Marks α)} {stop : Stop α}
    (step : ∀ marks a, body marks a ≠ .error stop → body' marks a = body marks a) (roots : List α)
    {marks : Marks α} (h : roots.foldlM body marks ≠ .error stop) :
    roots.foldlM body' marks = roots.foldlM body marks := by
  induction roots generalizing marks with
  | nil => rfl
  | cons a rest ih =>
    rw [List.foldlM_cons] at h
    rw [List.foldlM_cons, List.foldlM_cons]
    cases hbody : body marks a with
    | error fault =>
      rw [hbody] at h
      rw [step marks a (hbody ▸ h), hbody]
      rfl
    | ok marks' =>
      rw [hbody] at h
      rw [step marks a (by rw [hbody]; simp), hbody]
      exact ih h

/-- More room changes nothing but a visit that had too little. -/
theorem visit_more (depth : Nat) {marks : Marks α} {a : α}
    (h : visit d names depth marks a ≠ .error .depth) :
    visit d names (depth + 1) marks a = visit d names depth marks a := by
  induction depth generalizing marks a with
  | zero => exact absurd rfl h
  | succ depth ih =>
    rw [visit] at h ⊢
    rw [visit]
    split
    · rfl
    · rename_i hpath
      rw [if_neg hpath] at h
      split
      · rfl
      · rename_i hnew
        rw [if_neg hnew] at h
        split
        · rfl
        · rename_i row hrow
          rw [hrow] at h
          rw [fold_agree (fun _ _ => ih) (names row) fun hfold => h (by simp [hfold])]

theorem visit_deeper {depth depth' : Nat} (hle : depth ≤ depth') {marks : Marks α} {a : α}
    (h : visit d names depth marks a ≠ .error .depth) :
    visit d names depth' marks a = visit d names depth marks a := by
  induction depth', hle using Nat.le_induction with
  | base => rfl
  | succ depth' _ ih => rw [visit_more depth' (ih ▸ h), ih]

/-! ## The search from all roots -/

theorem search_ok {depth : Nat} {roots : List α} {marks : Marks α}
    (h : search d names depth roots = .ok marks) : ∀ root ∈ roots, Ends d names root := by
  have hvisited := Visited.fold (fun _ _ _ => visit_ok depth) roots h
  exact fun root hroot => hvisited.ends (by simp) root (hvisited.found root hroot)

theorem search_explained {depth : Nat} {roots : List α} {stop : Stop α}
    (h : search d names depth roots = .error stop) :
    ∃ root ∈ roots, Explained d names root stop := by
  refine foldlM_error (P := fun (rest : List α) (s : Marks α) => (∀ b ∈ rest, b ∈ roots) ∧
    s.visiting = []) (Q := fun stop => ∃ root ∈ roots, Explained d names root stop) ?_ ?_ roots _
    stop ⟨fun _ hb => hb, rfl⟩ h
  · rintro b rest s s' ⟨hin, hvisiting⟩ hs
    exact ⟨fun c hc => hin c (List.mem_cons_of_mem _ hc),
      (visit_ok depth hs).visiting.trans hvisiting⟩
  · rintro b rest s stop' ⟨hin, hvisiting⟩ hs
    exact ⟨b, hin b List.mem_cons_self, visit_explained depth (by simp [hvisiting]) hs⟩

theorem search_depth {depth : Nat} (hroom : d.keys.length < depth) (roots : List α) :
    search d names depth roots ≠ .error .depth := by
  intro h
  refine foldlM_error (P := fun (_ : List α) (s : Marks α) => s.visiting = [])
    (Q := fun stop : Stop α => stop ≠ .depth) ?_ ?_ roots _ .depth (Eq.refl _) h rfl
  · intro b rest s s' hvisiting hs
    exact (visit_ok depth hs).visiting.trans hvisiting
  · rintro b rest s stop hvisiting hs rfl
    exact visit_depth depth (by simp [hvisiting]) (by simp [hvisiting]) (by simpa [hvisiting]) hs

/-- **A search with room enough comes to the same with more.** -/
theorem search_deeper {depth depth' : Nat} (hle : depth ≤ depth') {roots : List α}
    (h : search d names depth roots ≠ .error .depth) :
    search d names depth' roots = search d names depth roots :=
  fold_agree (fun _ _ => visit_deeper hle) roots h

/-- **The search succeeds exactly when there is nothing to find.** -/
theorem search_eq_ok_iff {depth : Nat} (hroom : d.keys.length < depth) {roots : List α} :
    (∃ marks, search d names depth roots = .ok marks) ↔
      ∀ root ∈ roots, ∀ a, Reaches d names root a →
        (∃ row, d.get? a = some row) ∧ ¬ TransGen (Names d names) a a := by
  constructor
  · rintro ⟨marks, h⟩ root hroot a hreach
    have hends := (search_ok h root hroot).reached hreach
    refine ⟨?_, hends.not_cycle⟩
    obtain ⟨_, row, hrow, -⟩ := hends
    exact ⟨row, hrow⟩
  · intro hclean
    cases h : search d names depth roots with
    | ok marks => exact ⟨marks, rfl⟩
    | error stop =>
      obtain ⟨root, hroot, hexplained⟩ := search_explained h
      cases stop with
      | cycle =>
        obtain ⟨a, hreach, hcycle⟩ := hexplained
        exact absurd hcycle (hclean root hroot a hreach).2
      | missing a =>
        obtain ⟨row, hrow⟩ := (hclean root hroot a hexplained.1).1
        simp [hexplained.2] at hrow
      | depth => exact absurd h (search_depth hroom roots)

end CycleSearch
