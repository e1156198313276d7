import Mathlib.Data.List.Pairwise
import Mathlib.Order.Basic
import Mathlib.Tactic
import OnchainBacktest.Lib.Checked

/-!
# Reading ordered rows page by page

Rows come in strictly increasing order of a rank.  A page after a cursor holds the first rows above
it, as many as the limit allows, and carries the mark of its last row as the next cursor when more
rows follow.  Reading on after the next cursor visits the rows in order, each of them once, and ends
as soon as the limits add up to the number of rows (`walk_eq`).
-/

set_option autoImplicit false

namespace Paging

variable {ρ γ κ ε ν : Type} [LinearOrder κ]

/-- The rows of a page, and the cursor to go on after. -/
structure Page (ρ γ : Type) where
  items : List ρ
  next : Option γ
  deriving DecidableEq

/-- The rows above a cursor; with no cursor, all of them. -/
def above (rank : ρ → κ) (after : Option κ) (rows : List ρ) : List ρ :=
  rows.filter fun row => decide (∀ cursor ∈ after, cursor < rank row)

/-- The first rows of a list as a page; it has a next cursor when it is not the last one. -/
def cut (mark : ρ → γ) (limit : Nat) (rows : List ρ) : Page ρ γ where
  items := rows.take limit
  next := if limit < rows.length then (rows.take limit).getLast?.map mark else none

/-- The page of at most `limit` rows after a cursor. -/
def page (mark : ρ → γ) (rank : γ → κ) (rows : List ρ) (after : Option γ) (limit : Nat) :
    Page ρ γ :=
  cut mark limit (above (fun row => rank (mark row)) (after.map rank) rows)

/-- A page with its rows changed. -/
def Page.map {τ : Type} (f : ρ → τ) (page : Page ρ γ) : Page τ γ := ⟨page.items.map f, page.next⟩

@[simp] theorem Page.map_self (page : Page ρ γ) : page.map (fun row => row) = page := by
  rw [Page.map, List.map_id']

/-- Read pages, each after the cursor of the last one, until a page has none: the rows read, and
whether the end was reached. -/
def walk (read : ν → Option γ → Except ε (Page ρ γ)) :
    List ν → Option γ → Except ε (List ρ × Bool)
  | [], _ => .ok ([], false)
  | visit :: visits, after => do
    let page ← read visit after
    match page.next with
    | none => .ok (page.items, true)
    | some cursor => do
      let (items, ended) ← walk read visits (some cursor)
      .ok (page.items ++ items, ended)

/-! ## Rows above a cursor -/

section Above

variable {rank : ρ → κ} {rows : List ρ}

@[simp] theorem above_none : above rank none rows = rows := by
  simp [above]

@[simp] theorem above_nil {after : Option κ} : above rank after ([] : List ρ) = [] := rfl

theorem above_append {after : Option κ} {front back : List ρ} :
    above rank after (front ++ back) = above rank after front ++ above rank after back :=
  List.filter_append ..

/-- Rows up to the cursor may be skipped. -/
theorem above_eq_nil {cursor : κ} (h : ∀ row ∈ rows, rank row ≤ cursor) :
    above rank (some cursor) rows = [] := by
  rw [above, List.filter_eq_nil_iff]
  intro row hrow
  simpa using h row hrow

/-- The rows above the last row taken are the rows that were left. -/
theorem above_last (hrows : (rows.map rank).Pairwise (· < ·)) {after : Option κ} {limit : Nat}
    {last : ρ} (hlast : ((above rank after rows).take limit).getLast? = some last) :
    above rank (some (rank last)) rows = (above rank after rows).drop limit := by
  rw [List.pairwise_map] at hrows
  have hkept : (above rank after rows).Pairwise fun a b => rank a < rank b :=
    hrows.sublist List.filter_sublist
  -- the rows above the last one are also above the cursor
  have hmem : last ∈ above rank after rows :=
    List.mem_of_mem_take (List.mem_of_getLast? hlast)
  have habove : ∀ cursor ∈ after, cursor < rank last := by
    simpa using (List.mem_filter.mp hmem).2
  have hagain : above rank (some (rank last)) rows
      = above rank (some (rank last)) (above rank after rows) := by
    rw [above, above, above, List.filter_filter]
    refine List.filter_congr fun row _ => ?_
    simp only [Option.mem_def, Option.some.injEq, forall_eq', Bool.and_eq_decide, decide_eq_true_eq,
      decide_eq_decide]
    exact ⟨fun h => ⟨h, fun cursor hcursor => (habove cursor hcursor).trans h⟩, fun h => h.1⟩
  rw [hagain]
  generalize above rank after rows = kept at hkept hlast
  have hsplit : above rank (some (rank last)) kept
      = above rank (some (rank last)) (kept.take limit)
        ++ above rank (some (rank last)) (kept.drop limit) := by
    rw [← above_append, List.take_append_drop]
  obtain ⟨front, hfront⟩ : ∃ front, kept.take limit = front ++ [last] := by
    rw [List.getLast?_eq_some_iff] at hlast
    exact hlast
  have hordered : (kept.take limit ++ kept.drop limit).Pairwise fun a b => rank a < rank b := by
    rwa [List.take_append_drop]
  obtain ⟨htaken, _, hcross⟩ := List.pairwise_append.mp hordered
  have htake : above rank (some (rank last)) (kept.take limit) = [] := by
    refine above_eq_nil fun row hrow => ?_
    rw [hfront] at htaken hrow
    rcases List.mem_append.mp hrow with hrow | hrow
    · exact ((List.pairwise_append.mp htaken).2.2 row hrow last (by simp)).le
    · rw [List.mem_singleton.mp hrow]
  have hdrop : above rank (some (rank last)) (kept.drop limit) = kept.drop limit := by
    rw [above, List.filter_eq_self]
    intro row hrow
    simpa using hcross last (by rw [hfront]; simp) row hrow
  rw [hsplit, htake, hdrop, List.nil_append]

/-- Among ordered rows the row of a rank is the first that does not lie below it. -/
theorem find?_eq (hrows : (rows.map rank).Pairwise (· < ·)) (wanted : κ) :
    rows.find? (fun row => decide (rank row = wanted))
      = (rows.find? fun row => decide (wanted ≤ rank row)).filter
          fun row => decide (rank row = wanted) := by
  induction rows with
  | nil => rfl
  | cons row rows ih =>
    rw [List.map_cons, List.pairwise_cons] at hrows
    rw [List.find?_cons, List.find?_cons]
    by_cases heq : rank row = wanted
    · simp [heq, Option.filter]
    · by_cases hle : wanted ≤ rank row
      · -- every later row has a greater rank
        have hlater : rows.find? (fun row => decide (rank row = wanted)) = none := by
          rw [List.find?_eq_none]
          intro later hlater hsame
          have hlt := hrows.1 _ (List.mem_map_of_mem hlater)
          rw [of_decide_eq_true hsame] at hlt
          exact absurd hle (not_le.mpr hlt)
        simp [heq, hle, hlater, Option.filter]
      · simp [heq, hle, ih hrows.2]

end Above

/-! ## Rows in the order of a rank -/

section Ordered

variable {order : ρ → ρ → Prop} [DecidableRel order] {rank : ρ → κ} {rows : List ρ}

/-- Rows of distinct ranks, sorted by them, are in strictly increasing order. -/
theorem sorted_strict (horder : ∀ a b, order a b ↔ rank a ≤ rank b)
    (hnodup : (rows.map rank).Nodup) :
    ((rows.insertionSort order).map rank).Pairwise (· < ·) := by
  have htotal : Std.Total order := ⟨fun a b => by simpa only [horder] using le_total _ _⟩
  have htrans : IsTrans ρ order :=
    ⟨fun a b c hab hbc => (horder a c).mpr (((horder a b).mp hab).trans ((horder b c).mp hbc))⟩
  have hle : ((rows.insertionSort order).map rank).Pairwise (· ≤ ·) :=
    List.pairwise_map.mpr ((List.pairwise_insertionSort order rows).imp fun h => (horder _ _).mp h)
  have hne : ((rows.insertionSort order).map rank).Nodup :=
    ((List.perm_insertionSort order rows).map rank).nodup_iff.mpr hnodup
  exact (hle.and hne).imp fun h => lt_of_le_of_ne h.1 h.2

/-- A condition may be asked before the rows are sorted or after. -/
theorem insertionSort_filter (horder : ∀ a b, order a b ↔ rank a ≤ rank b)
    (hnodup : (rows.map rank).Nodup) (p : ρ → Bool) :
    (rows.filter p).insertionSort order = (rows.insertionSort order).filter p := by
  have hsub : ((rows.filter p).map rank).Nodup := hnodup.sublist (List.filter_sublist.map rank)
  have hleft := List.pairwise_map.mp (sorted_strict horder hsub)
  have hright := (List.pairwise_map.mp (sorted_strict horder hnodup)).sublist
    (List.filter_sublist (p := p))
  have hperm : ((rows.filter p).insertionSort order).Perm ((rows.insertionSort order).filter p) :=
    (List.perm_insertionSort order _).trans ((List.perm_insertionSort order rows).symm.filter p)
  exact hperm.eq_of_pairwise (fun _ _ _ _ hab hba => absurd hab (lt_asymm hba)) hleft hright

end Ordered

/-! ## Pages -/

section Pages

variable {mark : ρ → γ} {rank : γ → κ} {rows : List ρ}

/-- One row more than the limit decides the page. -/
theorem cut_take (limit : Nat) : cut mark limit (rows.take (limit + 1)) = cut mark limit rows := by
  have htake : (rows.take (limit + 1)).take limit = rows.take limit := by
    rw [List.take_take, Nat.min_eq_left (Nat.le_succ limit)]
  have hlength : limit < (rows.take (limit + 1)).length ↔ limit < rows.length := by
    rw [List.length_take]
    omega
  simp only [cut, htake, hlength]

/-- A page with a next cursor is full and goes on from its last row. -/
theorem cut_next_eq_some {limit : Nat} {cursor : γ} (h : (cut mark limit rows).next = some cursor) :
    limit < rows.length ∧ ∃ last, (rows.take limit).getLast? = some last ∧ mark last = cursor := by
  simp only [cut] at h
  split at h
  · rename_i hmore
    exact ⟨hmore, Option.map_eq_some_iff.mp h⟩
  · cases h

/-- A page of at least one row has no next cursor exactly when it holds all the rows. -/
theorem cut_next_eq_none {limit : Nat} (hlimit : 0 < limit) :
    (cut mark limit rows).next = none ↔ rows.length ≤ limit := by
  simp only [cut]
  split
  · rename_i hmore
    have hne : rows.take limit ≠ [] := by
      intro hnil
      have := congrArg List.length hnil
      rw [List.length_take, List.length_nil] at this
      omega
    simp only [Option.map_eq_none_iff, List.getLast?_eq_none_iff, hne, false_iff]
    omega
  · rename_i hless
    simpa using hless

/-- **Reading page after page visits the rows above the cursor in order, each of them once.**  The
end is reached exactly when the limits add up to their number.  The pages need only be right after
the cursors that stand at rows, and may show their rows in another form. -/
theorem walk_eq {τ : Type} {f : ρ → τ}
    (hrows : (rows.map fun row => rank (mark row)).Pairwise (· < ·))
    {read : ν → Option γ → Except ε (Page τ γ)} {size : ν → Nat} {visits : List ν}
    {P : Option γ → Prop} (hmark : ∀ row ∈ rows, P (some (mark row)))
    (hread : ∀ visit ∈ visits, ∀ after, P after →
      read visit after = .ok ((page mark rank rows after (size visit)).map f))
    (hsize : ∀ visit ∈ visits, 0 < size visit) {after : Option γ} (hafter : P after) :
    walk read visits after
      = .ok (((above (fun row => rank (mark row)) (after.map rank) rows).take
            (visits.map size).sum).map f,
          decide (visits ≠ [] ∧
            (above (fun row => rank (mark row)) (after.map rank) rows).length
              ≤ (visits.map size).sum)) := by
  induction visits generalizing after with
  | nil => simp [walk]
  | cons visit visits ih =>
    have hpage := hread visit List.mem_cons_self after hafter
    have hpositive := hsize visit List.mem_cons_self
    set kept := above (fun row => rank (mark row)) (after.map rank) rows with hkept
    rw [walk, hpage, Checked.ok_bind, List.map_cons, List.sum_cons]
    have hitems : ((page mark rank rows after (size visit)).map f).items
        = (kept.take (size visit)).map f := rfl
    cases hnext : ((page mark rank rows after (size visit)).map f).next with
    | none =>
      have hall : kept.length ≤ size visit := (cut_next_eq_none hpositive).mp hnext
      have hended : kept.length ≤ size visit + (visits.map size).sum := by omega
      simp [hitems, List.take_of_length_le hall, List.take_of_length_le hended, hended]
    | some cursor =>
      obtain ⟨hmore, last, hlast, rfl⟩ := cut_next_eq_some hnext
      have hdrop : above (fun row => rank (mark row)) ((some (mark last)).map rank) rows
          = kept.drop (size visit) := above_last hrows hlast
      have hlastMem : last ∈ rows :=
        List.mem_of_mem_filter (List.mem_of_mem_take (List.mem_of_getLast? hlast))
      have hrest := ih (fun v hv => hread v (List.mem_cons_of_mem _ hv))
        (fun v hv => hsize v (List.mem_cons_of_mem _ hv)) (hmark last hlastMem)
      dsimp only
      rw [hrest, hdrop, Checked.ok_bind, hitems, List.length_drop, List.take_add, List.map_append]
      congr 2
      -- with rows left, no end is reached before another page is read
      cases visits with
      | nil => simp; omega
      | cons next visits =>
        simp only [ne_eq, reduceCtorEq, not_false_eq_true, true_and]
        congr 1
        ext
        omega

end Pages

/-! ## Pages in another form -/

section Forms

variable {τ σ : Type} {read : ν → Option γ → Except ε (Page τ γ)} {form : τ → σ}
  {shown : ν → Option γ → Page σ γ} {P : Option γ → Prop} {visits : List ν} {after : Option γ}

/-- The pages that are read are the shown ones, in another form, after the cursors of a kind; the
next cursors are of that kind again. -/
structure Reads (read : ν → Option γ → Except ε (Page τ γ)) (form : τ → σ)
    (shown : ν → Option γ → Page σ γ) (P : Option γ → Prop) (visits : List ν) : Prop where
  page : ∀ visit ∈ visits, ∀ after, P after → ∀ page, read visit after = .ok page →
    page.map form = shown visit after
  next : ∀ visit ∈ visits, ∀ after, P after → ∀ cursor, (shown visit after).next = some cursor →
    P (some cursor)

theorem Reads.tail {visit : ν} (h : Reads read form shown P (visit :: visits)) :
    Reads read form shown P visits where
  page v hv := h.page v (List.mem_cons_of_mem _ hv)
  next v hv := h.next v (List.mem_cons_of_mem _ hv)

/-- Pages in another form are read one after the other as the shown ones are. -/
theorem Reads.walk_eq_ok (h : Reads read form shown P visits) (hafter : P after) {items : List τ}
    {ended : Bool} (hwalk : walk read visits after = .ok (items, ended)) :
    walk (fun visit after => (.ok (shown visit after) : Except ε (Page σ γ))) visits after
      = .ok (items.map form, ended) := by
  induction visits generalizing after items ended with
  | nil =>
    cases hwalk
    rfl
  | cons visit visits ih =>
    rw [walk] at hwalk
    obtain ⟨page, hpage, hwalk⟩ := Checked.bind_eq_ok.mp hwalk
    have hshown := h.page visit List.mem_cons_self after hafter page hpage
    have hitems : (shown visit after).items = page.items.map form := by rw [← hshown]; rfl
    have hnext : (shown visit after).next = page.next := by rw [← hshown]; rfl
    rw [walk, Checked.ok_bind, hnext, hitems]
    cases hcursor : page.next with
    | none =>
      rw [hcursor] at hwalk
      cases hwalk
      rfl
    | some cursor =>
      rw [hcursor] at hwalk
      obtain ⟨⟨rest, last⟩, hrest, hwalk⟩ := Checked.bind_eq_ok.mp hwalk
      cases hwalk
      have hkind := h.next visit List.mem_cons_self after hafter cursor (hnext.trans hcursor)
      dsimp only
      rw [ih h.tail hkind hrest, Checked.ok_bind, List.map_append]

/-- Reading page after page fails as one of the pages does. -/
theorem Reads.walk_eq_error (h : Reads read form shown P visits) (hafter : P after) {fault : ε}
    (hwalk : walk read visits after = .error fault) :
    ∃ visit ∈ visits, ∃ cursor, P cursor ∧ read visit cursor = .error fault := by
  induction visits generalizing after with
  | nil => cases hwalk
  | cons visit visits ih =>
    rw [walk] at hwalk
    rcases Checked.bind_eq_error.mp hwalk with hpage | ⟨page, hpage, hwalk⟩
    · exact ⟨visit, List.mem_cons_self, after, hafter, hpage⟩
    · have hshown := h.page visit List.mem_cons_self after hafter page hpage
      cases hcursor : page.next with
      | none =>
        rw [hcursor] at hwalk
        cases hwalk
      | some cursor =>
        rw [hcursor] at hwalk
        have hkind := h.next visit List.mem_cons_self after hafter cursor
          (by rw [← hshown]; exact hcursor)
        rcases Checked.bind_eq_error.mp hwalk with hrest | ⟨rest, -, hrest⟩
        · obtain ⟨v, hv, hread⟩ := ih h.tail hkind hrest
          exact ⟨v, List.mem_cons_of_mem _ hv, hread⟩
        · cases hrest

end Forms

/-! ## Rows that come and go between pages -/

section Changing

variable {mark : ρ → γ} {rank : γ → κ} {rows : ν → List ρ} {size : ν → Nat} {visits : List ν}
  {after : Option γ} {items : List ρ} {ended : Bool}

/-- The pages of rows that are others at each visit. -/
def pages (mark : ρ → γ) (rank : γ → κ) (rows : ν → List ρ) (size : ν → Nat) (visit : ν)
    (after : Option γ) : Except ε (Page ρ γ) :=
  .ok (page mark rank (rows visit) after (size visit))

theorem mem_above {f : ρ → κ} {cursor : Option κ} {l : List ρ} {row : ρ} :
    row ∈ above f cursor l ↔ row ∈ l ∧ ∀ c ∈ cursor, c < f row := by
  simp [above, List.mem_filter]

/-- Rows that are the same at every visit are read in order. -/
theorem walk_still {still : List ρ}
    (hrows : (still.map fun row => rank (mark row)).Pairwise (· < ·))
    (hstill : ∀ visit ∈ visits, rows visit = still) (hsize : ∀ visit ∈ visits, 0 < size visit) :
    walk (pages (ε := ε) mark rank rows size) visits after
      = .ok ((above (fun row => rank (mark row)) (after.map rank) still).take
            (visits.map size).sum,
          decide (visits ≠ [] ∧
            (above (fun row => rank (mark row)) (after.map rank) still).length
              ≤ (visits.map size).sum)) := by
  have hread : ∀ visit ∈ visits, ∀ after, True → pages (ε := ε) mark rank rows size visit after
      = .ok ((page mark rank still after (size visit)).map fun row => row) := by
    intro visit hvisit after _
    rw [pages, hstill visit hvisit, Page.map_self]
  rw [walk_eq (P := fun _ => True) hrows (fun _ _ => trivial) hread hsize trivial, List.map_id']

theorem pairwise_above {f : ρ → κ} {cursor : Option κ} {l : List ρ}
    (h : (l.map f).Pairwise (· < ·)) : (above f cursor l).Pairwise fun a b => f a < f b := by
  rw [List.pairwise_map] at h
  exact h.sublist List.filter_sublist

/-- The rows of a full page lie up to its last one, and the others above it. -/
theorem rank_take_drop {f : ρ → κ} {kept : List ρ} {limit : Nat} {last : ρ}
    (hkept : kept.Pairwise fun a b => f a < f b) (hlast : (kept.take limit).getLast? = some last) :
    (∀ row ∈ kept.take limit, f row ≤ f last) ∧ ∀ row ∈ kept.drop limit, f last < f row := by
  obtain ⟨front, hfront⟩ := List.getLast?_eq_some_iff.mp hlast
  rw [← List.take_append_drop limit kept, List.pairwise_append] at hkept
  obtain ⟨htaken, -, hcross⟩ := hkept
  refine ⟨fun row hrow => ?_, fun row hrow => hcross last (by simp [hfront]) row hrow⟩
  rw [hfront] at htaken hrow
  rcases List.mem_append.mp hrow with hrow | hrow
  · exact ((List.pairwise_append.mp htaken).2.2 row hrow last (by simp)).le
  · rw [List.mem_singleton.mp hrow]

/-- **Rows that come and go between pages.**  Whatever the rows are at each visit, the rows read are
in strictly increasing order, so none is read twice; and a rank that has a row at every visit has
been read once the end is reached. -/
theorem walk_changing
    (hrows : ∀ visit ∈ visits, ((rows visit).map fun row => rank (mark row)).Pairwise (· < ·))
    (hsize : ∀ visit ∈ visits, 0 < size visit)
    (hwalk : walk (pages (ε := ε) mark rank rows size) visits after = .ok (items, ended)) :
    (items.map fun row => rank (mark row)).Pairwise (· < ·) ∧
    (∀ row ∈ items, (∀ cursor ∈ after, rank cursor < rank (mark row)) ∧
      ∃ visit ∈ visits, row ∈ rows visit) ∧
    (ended = true → ∀ k, (∀ cursor ∈ after, rank cursor < k) →
      (∀ visit ∈ visits, ∃ row ∈ rows visit, rank (mark row) = k) →
      ∃ row ∈ items, rank (mark row) = k) := by
  induction visits generalizing after items ended with
  | nil =>
    cases hwalk
    simp
  | cons visit visits ih =>
    have hsorted := hrows visit List.mem_cons_self
    have hpositive := hsize visit List.mem_cons_self
    rw [walk, pages, Checked.ok_bind, page] at hwalk
    set f : ρ → κ := fun row => rank (mark row) with hf
    set kept := above f (after.map rank) (rows visit) with hkept
    have hordered : kept.Pairwise fun a b => f a < f b := pairwise_above hsorted
    have hmem : ∀ row ∈ kept, row ∈ rows visit ∧ ∀ cursor ∈ after, rank cursor < f row := by
      intro row hrow
      obtain ⟨hrow, habove⟩ := mem_above.mp hrow
      exact ⟨hrow, fun cursor hcursor => habove _ (Option.mem_map_of_mem rank hcursor)⟩
    have hback : ∀ row ∈ rows visit, (∀ cursor ∈ after, rank cursor < f row) → row ∈ kept := by
      intro row hrow habove
      refine mem_above.mpr ⟨hrow, fun c hc => ?_⟩
      obtain ⟨cursor, hcursor, rfl⟩ := Option.mem_map.mp hc
      exact habove cursor hcursor
    cases hnext : (cut mark (size visit) kept).next with
    | none =>
      rw [hnext] at hwalk
      obtain ⟨rfl, rfl⟩ := Prod.mk.inj (Except.ok.inj hwalk)
      have hall : kept.length ≤ size visit := (cut_next_eq_none hpositive).mp hnext
      have hitems : (cut mark (size visit) kept).items = kept := List.take_of_length_le hall
      rw [hitems]
      refine ⟨List.pairwise_map.mpr hordered, fun row hrow => ?_, fun _ k hk hpresent => ?_⟩
      · exact ⟨(hmem row hrow).2, visit, List.mem_cons_self, (hmem row hrow).1⟩
      · obtain ⟨row, hrow, rfl⟩ := hpresent visit List.mem_cons_self
        exact ⟨row, hback row hrow hk, rfl⟩
    | some cursor =>
      rw [hnext] at hwalk
      obtain ⟨-, last, hlast, rfl⟩ := cut_next_eq_some hnext
      obtain ⟨⟨rest, ended'⟩, hrest, hwalk⟩ := Checked.bind_eq_ok.mp hwalk
      obtain ⟨rfl, rfl⟩ := Prod.mk.inj (Except.ok.inj hwalk)
      obtain ⟨hupto, hbeyond⟩ := rank_take_drop hordered hlast
      obtain ⟨hincreasing, hfrom, hended⟩ := ih
        (fun v hv => hrows v (List.mem_cons_of_mem _ hv))
        (fun v hv => hsize v (List.mem_cons_of_mem _ hv)) hrest
      have hlater : ∀ row ∈ rest, f last < f row := fun row hrow => (hfrom row hrow).1 _ rfl
      have hlastAbove : ∀ cursor ∈ after, rank cursor < f last :=
        (hmem last (List.mem_of_mem_take (List.mem_of_getLast? hlast))).2
      refine ⟨?_, fun row hrow => ?_, fun hend k hk hpresent => ?_⟩
      · rw [List.map_append, List.pairwise_append]
        refine ⟨List.pairwise_map.mpr (hordered.sublist (List.take_sublist _ _)), hincreasing, ?_⟩
        intro a ha b hb
        obtain ⟨row, hrow, rfl⟩ := List.mem_map.mp ha
        obtain ⟨row', hrow', rfl⟩ := List.mem_map.mp hb
        exact (hupto row hrow).trans_lt (hlater row' hrow')
      · rcases List.mem_append.mp hrow with hrow | hrow
        · have hthere := hmem row (List.mem_of_mem_take hrow)
          exact ⟨hthere.2, visit, List.mem_cons_self, hthere.1⟩
        · obtain ⟨v, hv, hthere⟩ := (hfrom row hrow).2
          exact ⟨fun cursor hcursor => (hlastAbove cursor hcursor).trans (hlater row hrow), v,
            List.mem_cons_of_mem _ hv, hthere⟩
      · by_cases hle : k ≤ f last
        · -- a row up to the last one of the page is on the page
          obtain ⟨row, hrow, rfl⟩ := hpresent visit List.mem_cons_self
          have hthere := hback row hrow hk
          rw [← List.take_append_drop (size visit) kept] at hthere
          rcases List.mem_append.mp hthere with hthere | hthere
          · exact ⟨row, List.mem_append_left _ hthere, rfl⟩
          · exact absurd hle (not_le.mpr (hbeyond row hthere))
        · obtain ⟨row, hrow, hrank⟩ := hended hend k
            (fun cursor hcursor => by
              obtain rfl := Option.mem_some_iff.mp hcursor
              exact not_le.mp hle)
            fun v hv => hpresent v (List.mem_cons_of_mem _ hv)
          exact ⟨row, List.mem_append_right _ hrow, hrank⟩

end Changing

/-! ## Related rows -/

section Related

variable {τ : Type} {R : ρ → τ → Prop} {rows : List ρ} {rows' : List τ}

/-- Related rows of the same ranks stay related above a cursor. -/
theorem forall₂_above {rank : ρ → κ} {rank' : τ → κ} (hrank : ∀ a b, R a b → rank a = rank' b)
    (h : List.Forall₂ R rows rows') (after : Option κ) :
    List.Forall₂ R (above rank after rows) (above rank' after rows') := by
  induction h with
  | nil => exact .nil
  | @cons a b rows rows' hab _ ih =>
    rw [above, above, List.filter_cons, List.filter_cons, hrank a b hab]
    split
    · exact .cons hab ih
    · exact ih

/-- Related rows of the same marks are cut into pages with the same cursors. -/
theorem cut_next_eq {mark : ρ → γ} {mark' : τ → γ} (hmark : ∀ a b, R a b → mark a = mark' b)
    (h : List.Forall₂ R rows rows') (limit : Nat) :
    (cut mark limit rows).next = (cut mark' limit rows').next := by
  have hmap : rows.map mark = rows'.map mark' := by
    induction h with
    | nil => rfl
    | cons hab _ ih => rw [List.map_cons, List.map_cons, hmark _ _ hab, ih]
  have hlast : (rows.take limit).getLast?.map mark = (rows'.take limit).getLast?.map mark' := by
    rw [← List.getLast?_map, ← List.getLast?_map, List.map_take, List.map_take, hmap]
  simp only [cut, hlast, h.length_eq]

end Related

end Paging
