import Mathlib.Data.List.Perm.Basic
import Mathlib.Algebra.BigOperators.Group.List.Basic
import OnchainBacktest.Lib.Dict

/-!
# Agendas

Items that each wait for at most one task, and a queue of tasks: the queue is an *agenda* of the
items when it holds exactly the tasks they wait for, each of them once (`Agenda`).

Three rules keep an agenda up: a new item brings its task (`Agenda.add`), a task taken from the
queue is for an item that waits for it (`Agenda.take`), and an item whose task is done brings its
next one (`Agenda.advance`).  What a queue sums to is what its items sum to (`Agenda.sum_eq`).
-/

set_option autoImplicit false

universe u v w x

section Agenda

variable {κ : Type u} {ν : Type v} {τ : Type w}

/-- The queue entry of an item, if it waits for a task. -/
def awaiting (k : κ) (task : Option τ) : List (κ × τ) := (task.map fun t => (k, t)).toList

@[simp] theorem awaiting_none (k : κ) : awaiting k (none : Option τ) = [] := rfl

@[simp] theorem awaiting_some (k : κ) (t : τ) : awaiting k (some t) = [(k, t)] := rfl

theorem mem_awaiting {k k' : κ} {task : Option τ} {t : τ} :
    (k', t) ∈ awaiting k task ↔ k' = k ∧ task = some t := by
  cases task with
  | none => simp
  | some t' => simp [eq_comm]

/-- All the tasks the entries of a dictionary wait for. -/
def awaited (pending : ν → Option τ) (entries : List (κ × ν)) : List (κ × τ) :=
  entries.flatMap fun e => awaiting e.1 (pending e.2)

/-- The queue holds exactly the tasks the items wait for. -/
def Agenda (pending : ν → Option τ) (items : Dict κ ν) (queue : List (κ × τ)) : Prop :=
  queue.Perm (awaited pending items.entries)

variable {pending : ν → Option τ} {items : Dict κ ν} {queue queue' : List (κ × τ)} {k : κ} {t : τ}

theorem awaited_append (l l' : List (κ × ν)) :
    awaited pending (l ++ l') = awaited pending l ++ awaited pending l' := by
  rw [awaited, List.flatMap_append]
  rfl

theorem mem_awaited {entries : List (κ × ν)} :
    (k, t) ∈ awaited pending entries ↔ ∃ v, (k, v) ∈ entries ∧ pending v = some t := by
  rw [awaited, List.mem_flatMap]
  constructor
  · rintro ⟨⟨k', v⟩, hmem, h⟩
    obtain ⟨rfl, h⟩ := mem_awaiting.mp h
    exact ⟨v, hmem, h⟩
  · rintro ⟨v, hmem, h⟩
    exact ⟨(k, v), hmem, mem_awaiting.mpr ⟨rfl, h⟩⟩

theorem Agenda.empty : Agenda pending (Dict.empty : Dict κ ν) [] := List.Perm.refl _

theorem Agenda.perm (h : Agenda pending items queue) (hp : queue'.Perm queue) :
    Agenda pending items queue' := hp.trans h

theorem map_fst_awaited_sublist (entries : List (κ × ν)) :
    ((awaited pending entries).map Prod.fst).Sublist (entries.map Prod.fst) := by
  induction entries with
  | nil => exact List.Sublist.slnil
  | cons e rest ih =>
    rw [awaited, List.flatMap_cons, List.map_append, List.map_cons]
    cases pending e.2 with
    | none => exact ih.cons _
    | some t => exact ih.cons_cons _

/-- No item has two tasks in the queue. -/
theorem Agenda.nodup (h : Agenda pending items queue) : (queue.map Prod.fst).Nodup :=
  (h.map Prod.fst).nodup_iff.mpr (items.nodup.sublist (map_fst_awaited_sublist _))

variable [DecidableEq κ]

/-- A task in the queue is one its item waits for. -/
theorem Agenda.take (h : Agenda pending items queue) (hmem : (k, t) ∈ queue) :
    ∃ v, items.get? k = some v ∧ pending v = some t := by
  obtain ⟨v, hv, hp⟩ := mem_awaited.mp (h.mem_iff.mp hmem)
  exact ⟨v, Dict.get?_eq_some_iff.mpr hv, hp⟩

/-- A task an item waits for is in the queue. -/
theorem Agenda.mem (h : Agenda pending items queue) {v : ν} (hv : items.get? k = some v)
    (hp : pending v = some t) : (k, t) ∈ queue :=
  h.mem_iff.mpr (mem_awaited.mpr ⟨v, Dict.get?_eq_some_iff.mp hv, hp⟩)

/-- A new item brings its task. -/
theorem Agenda.add (h : Agenda pending items queue) (hnew : items.get? k = none) (v : ν) :
    Agenda pending (items.set k v) (awaiting k (pending v) ++ queue) := by
  rw [Agenda, Dict.entries_set_of_new v hnew, awaited_append]
  refine List.perm_append_comm.trans (h.append ?_)
  rw [awaited, List.flatMap_singleton]

/-- **An item whose task is done brings its next one.** -/
theorem Agenda.advance (h : Agenda pending items ((k, t) :: queue)) (v' : ν) :
    Agenda pending (items.set k v') (awaiting k (pending v') ++ queue) := by
  obtain ⟨v, hv, hp⟩ := h.take List.mem_cons_self
  obtain ⟨l, l', hl, hl'⟩ := Dict.split hv v'
  have h1 : ((k, t) :: queue).Perm ((k, t) :: (awaited pending l ++ awaited pending l')) := by
    refine h.trans ?_
    rw [hl, awaited_append]
    refine (List.Perm.append_left _ ?_).trans List.perm_middle
    rw [awaited, List.flatMap_cons, hp]
    exact List.Perm.refl _
  have h2 : queue.Perm (awaited pending l ++ awaited pending l') := h1.cons_inv
  rw [Agenda, hl', awaited_append, awaited, awaited, List.flatMap_cons]
  refine (h2.append_left _).trans ?_
  rw [← List.append_assoc, ← List.append_assoc]
  exact List.perm_append_comm.append_right _

omit [DecidableEq κ] in
/-- **What a queue sums to is what its items sum to.** -/
theorem Agenda.sum_eq {M : Type x} [AddCommMonoid M] (h : Agenda pending items queue)
    (f : κ → τ → M) :
    (queue.map fun e => f e.1 e.2).sum
      = items.total fun k v => ((pending v).map (f k)).getD 0 := by
  rw [(h.map _).sum_eq, Dict.total]
  generalize items.entries = entries
  induction entries with
  | nil => rfl
  | cons e rest ih =>
    rw [awaited, List.flatMap_cons, List.map_append, List.sum_append, List.map_cons,
      List.sum_cons]
    refine congrArg₂ (· + ·) ?_ ih
    cases hp : pending e.2 with
    | none => simp
    | some t => simp

end Agenda
