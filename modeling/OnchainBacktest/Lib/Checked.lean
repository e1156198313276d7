import Mathlib.Tactic
import Mathlib.Data.List.Basic

/-!
# Checked computations

A checked computation is an `Except`: it either returns a value or stops with one fault.  This
file has the few things every proof about such a computation needs, for any type of faults:

* `Checked.refuseIf`, the guard `if bad: raise fault`, and what it means for it to pass;
* the inversion of a sequence, `Checked.bind_eq_ok` and `Checked.bind_eq_error`;
* `Checked.Stops`, what every fault of a computation satisfies, and the rules that take it apart;
* `Checked.construct`, the constructor of a value that carries the proof of its own check;
* the rule for a loop, `Checked.foldlM_ok` and `Checked.foldlM_error`: a relation between what is
  left of the list and the state that one pass of the body keeps is kept by the whole loop, and a
  fault of the loop is a fault of one pass of its body.
-/

set_option autoImplicit false

namespace Checked

universe u w

variable {ε : Type u} {α β : Type}

/-! ## Guards -/

/-- The guard `if condition: raise fault`. -/
def refuseIf (condition : Prop) [Decidable condition] (fault : ε) : Except ε Unit :=
  if condition then .error fault else .ok ()

@[simp] theorem refuseIf_eq_ok {condition : Prop} [Decidable condition] {fault : ε} {u : Unit} :
    refuseIf condition fault = .ok u ↔ ¬ condition := by
  unfold refuseIf
  split <;> simp_all

@[simp] theorem refuseIf_eq_error {condition : Prop} [Decidable condition] {fault e : ε} :
    refuseIf condition fault = .error e ↔ condition ∧ fault = e := by
  unfold refuseIf
  split <;> simp_all

theorem refuseIf_of_not {condition : Prop} [Decidable condition] {fault : ε}
    (h : ¬ condition) : refuseIf condition fault = .ok () := if_neg h

theorem refuseIf_of {condition : Prop} [Decidable condition] {fault : ε}
    (h : condition) : refuseIf condition fault = .error fault := if_pos h

/-! ## Sequences -/

@[simp] theorem ok_bind (a : α) (f : α → Except ε β) : (Except.ok a >>= f) = f a := rfl

@[simp] theorem error_bind (e : ε) (f : α → Except ε β) :
    ((Except.error e : Except ε α) >>= f) = .error e := rfl

/-- A sequence returns when its first part returns and the rest returns from there. -/
theorem bind_eq_ok {x : Except ε α} {f : α → Except ε β} {b : β} :
    (x >>= f) = .ok b ↔ ∃ a, x = .ok a ∧ f a = .ok b := by
  cases x with
  | error e => simp
  | ok a => simp

/-- A sequence with the first part of one that returned, and a rest that returns where its rest
did, returns. -/
theorem bind_transfer {α β γ : Type} {x : Except ε α} {f : α → Except ε β} {g : α → Except ε γ}
    {b : β} {c : γ} (h : (x >>= f) = .ok b)
    (hrest : ∀ a, x = .ok a → f a = .ok b → g a = .ok c) : (x >>= g) = .ok c := by
  obtain ⟨a, ha, hf⟩ := bind_eq_ok.mp h
  rw [ha]
  exact hrest a ha hf

/-- What is done to the result of a sequence is done to the result of its rest. -/
theorem map_bind {γ : Type} {x : Except ε α} {f : α → Except ε β} {g : β → γ} :
    (x >>= f).map g = x >>= fun a => (f a).map g := by
  cases x with
  | error e => rfl
  | ok a => rfl

theorem map_ok {a : α} {g : α → β} : (Except.ok a : Except ε α).map g = .ok (g a) := rfl

theorem map_eq_ok {x : Except ε α} {g : α → β} {b : β} :
    x.map g = .ok b ↔ ∃ a, x = .ok a ∧ g a = b := by
  cases x with
  | error e => simp [Except.map]
  | ok a => simp [Except.map]

/-- Renaming the faults changes no result. -/
theorem mapError_eq_ok {ε' : Type} {f : ε → ε'} {x : Except ε α} {a : α} :
    x.mapError f = .ok a ↔ x = .ok a := by
  cases x with
  | error e => simp [Except.mapError]
  | ok b => simp [Except.mapError]

/-- A check returns nothing, so what follows it starts where it stood. -/
theorem check_bind_eq_ok {x : Except ε Unit} {f : Unit → Except ε β} {b : β} :
    (x >>= f) = .ok b ↔ x = .ok () ∧ f () = .ok b := by
  cases x with
  | error e => simp
  | ok a => simp

/-- A sequence stops with a fault of its first part or of the rest. -/
theorem bind_eq_error {x : Except ε α} {f : α → Except ε β} {e : ε} :
    (x >>= f) = .error e ↔ x = .error e ∨ ∃ a, x = .ok a ∧ f a = .error e := by
  cases x with
  | error e' => simp
  | ok a => simp

/-- A computation that commutes with a change of what it is given tells nothing more of two inputs
than what the change leaves of them. -/
theorem agree_of_commutes {g : α → α} {g' : β → β} {F : α → Except ε β}
    (hF : ∀ x, F (g x) = (F x).map g') {x y : α} {x' y' : β} (hxy : g x = g y)
    (hx : F x = .ok x') (hy : F y = .ok y') : g' x' = g' y' := by
  have h := (hF x).symm.trans ((congrArg F hxy).trans (hF y))
  rw [hx, hy] at h
  exact Except.ok.inj h

/-! ## What a computation can stop with -/

/-- Every fault `x` stops with has the property. -/
def Stops (P : ε → Prop) (x : Except ε α) : Prop := ∀ e, x = .error e → P e

section Stops

variable {P Q : ε → Prop}

theorem stops_ok (a : α) : Stops P (.ok a : Except ε α) := fun _ h => nomatch h

theorem stops_error {e : ε} (h : P e) : Stops P (.error e : Except ε α) := by
  intro e' he
  cases he
  exact h

theorem stops_refuseIf {condition : Prop} [Decidable condition] {fault : ε}
    (h : condition → P fault) : Stops P (refuseIf condition fault) := by
  intro e he
  obtain ⟨hc, rfl⟩ := refuseIf_eq_error.mp he
  exact h hc

theorem Stops.bind {x : Except ε α} {f : α → Except ε β} (hx : Stops P x)
    (hf : ∀ a, x = .ok a → Stops P (f a)) : Stops P (x >>= f) := by
  intro e he
  rcases bind_eq_error.mp he with h | ⟨a, ha, h⟩
  · exact hx e h
  · exact hf a ha e h

theorem Stops.ite {condition : Prop} [Decidable condition] {x y : Except ε α}
    (hx : condition → Stops P x) (hy : ¬ condition → Stops P y) :
    Stops P (if condition then x else y) := by
  split
  · exact hx (by assumption)
  · exact hy (by assumption)

theorem Stops.mono {x : Except ε α} (h : Stops P x) (hPQ : ∀ e, P e → Q e) : Stops Q x :=
  fun e he => hPQ e (h e he)

theorem Stops.and {x : Except ε α} (h : Stops P x) (h' : Stops Q x) :
    Stops (fun e => P e ∧ Q e) x :=
  fun e he => ⟨h e he, h' e he⟩

end Stops

/-! ## Constructors -/

/-- A constructor that checks: the value, once its check has passed. -/
def construct (check : Except ε Unit) (value : check = .ok () → α) : Except ε α :=
  match check, value with
  | .ok (), value => .ok (value rfl)
  | .error e, _ => .error e

theorem construct_eq_ok {check : Except ε Unit} {value : check = .ok () → α} {a : α} :
    construct check value = .ok a ↔ ∃ h, value h = a := by
  match check, value with
  | .ok (), value => simp [construct]
  | .error e, value => simp [construct]

theorem construct_eq_error {check : Except ε Unit} {value : check = .ok () → α} {e : ε} :
    construct check value = .error e ↔ check = .error e := by
  match check, value with
  | .ok (), value => simp [construct]
  | .error e', value => simp [construct]

/-! ## Loops -/

section Loops

variable {σ : Type} {ι : Type w} {body : σ → ι → Except ε σ}

/-- **The loop rule.**  A relation between the items still to come and the state, kept by one pass
of the body, holds with no item left when the loop returns. -/
theorem foldlM_ok {P : List ι → σ → Prop}
    (step : ∀ i rest s s', P (i :: rest) s → body s i = .ok s' → P rest s') :
    ∀ (items : List ι) (s s' : σ), P items s → items.foldlM body s = .ok s' → P [] s'
  | [], s, s', hP, h => by
    simp only [List.foldlM_nil, pure, Except.pure, Except.ok.injEq] at h
    exact h ▸ hP
  | i :: rest, s, s', hP, h => by
    rw [List.foldlM_cons] at h
    obtain ⟨t, ht, h⟩ := bind_eq_ok.mp h
    exact foldlM_ok step rest t s' (step i rest s t hP ht) h

/-- A fault of a loop is a fault of one pass of its body, from a state the relation holds of. -/
theorem foldlM_error {P : List ι → σ → Prop} {Q : ε → Prop}
    (step : ∀ i rest s s', P (i :: rest) s → body s i = .ok s' → P rest s')
    (stop : ∀ i rest s e, P (i :: rest) s → body s i = .error e → Q e) :
    ∀ (items : List ι) (s : σ) (e : ε), P items s → items.foldlM body s = .error e → Q e
  | [], s, e, _, h => by simp [pure, Except.pure] at h
  | i :: rest, s, e, hP, h => by
    rw [List.foldlM_cons] at h
    rcases bind_eq_error.mp h with h | ⟨t, ht, h⟩
    · exact stop i rest s e hP h
    · exact foldlM_error step stop rest t e (step i rest s t hP ht) h

/-- What every pass of a loop keeps is kept by the loop. -/
theorem foldlM_keeps {P : σ → Prop} {items : List ι}
    (step : ∀ i ∈ items, ∀ s s', P s → body s i = .ok s' → P s') {s s' : σ} (hP : P s)
    (h : items.foldlM body s = .ok s') : P s' := by
  refine (foldlM_ok (P := fun rest s => (∀ i ∈ rest, i ∈ items) ∧ P s) ?_ items s s'
    ⟨fun _ hi => hi, hP⟩ h).2
  intro i rest s s' ⟨hin, hP⟩ hs
  exact ⟨fun j hj => hin j (List.mem_cons_of_mem _ hj),
    step i (hin i List.mem_cons_self) s s' hP hs⟩

/-- A loop that returned has passed every item. -/
theorem foldlM_passes {items : List ι} {s s' : σ} (h : items.foldlM body s = .ok s') :
    ∀ i ∈ items, ∃ t t', body t i = .ok t' := by
  intro i hi
  refine (foldlM_ok (P := fun rest _ => i ∈ rest ∨ ∃ t t', body t i = .ok t') ?_ items s s'
    (.inl hi) h).resolve_left List.not_mem_nil
  rintro j rest t t' (hj | hpassed) ht
  · rcases List.mem_cons.mp hj with rfl | hrest
    · exact .inr ⟨t, t', ht⟩
    · exact .inl hrest
  · exact .inr hpassed

/-- Two loops over the same items, from states that agree, end in states that agree. -/
theorem foldlM_agree {σ' : Type} {body' : σ' → ι → Except ε σ'} {R : σ → σ' → Prop}
    {items : List ι}
    (step : ∀ i ∈ items, ∀ s s' t t', R s s' → body s i = .ok t → body' s' i = .ok t' → R t t')
    {s t : σ} {s' t' : σ'} (hR : R s s') (h : items.foldlM body s = .ok t)
    (h' : items.foldlM body' s' = .ok t') : R t t' := by
  induction items generalizing s s' with
  | nil =>
    simp only [List.foldlM_nil, pure, Except.pure, Except.ok.injEq] at h h'
    exact h ▸ h' ▸ hR
  | cons i rest ih =>
    rw [List.foldlM_cons] at h h'
    obtain ⟨u, hu, h⟩ := bind_eq_ok.mp h
    obtain ⟨u', hu', h'⟩ := bind_eq_ok.mp h'
    exact ih (fun j hj => step j (List.mem_cons_of_mem _ hj))
      (step i List.mem_cons_self s s' u u' hR hu hu') h h'

/-- A loop reads its body on its items only. -/
theorem foldlM_congr {body' : σ → ι → Except ε σ} {items : List ι}
    (h : ∀ i ∈ items, ∀ s, body s i = body' s i) (s : σ) :
    items.foldlM body s = items.foldlM body' s := by
  induction items generalizing s with
  | nil => rfl
  | cons i rest ih =>
    rw [List.foldlM_cons, List.foldlM_cons, h i List.mem_cons_self s]
    exact congrArg (body' s i >>= ·)
      (funext fun t => ih (fun j hj => h j (List.mem_cons_of_mem _ hj)) t)

/-- A loop returns what another did, if each pass returns what that one's did. -/
theorem foldlM_transfer {body' : σ → ι → Except ε σ} {items : List ι}
    (step : ∀ i ∈ items, ∀ s t, body s i = .ok t → body' s i = .ok t) {s s' : σ}
    (h : items.foldlM body s = .ok s') : items.foldlM body' s = .ok s' := by
  induction items generalizing s with
  | nil => exact h
  | cons i rest ih =>
    rw [List.foldlM_cons] at h ⊢
    obtain ⟨t, ht, h⟩ := bind_eq_ok.mp h
    rw [step i List.mem_cons_self s t ht]
    exact ih (fun j hj => step j (List.mem_cons_of_mem _ hj)) h

/-- A loop whose passes commute with a change of the state commutes with it. -/
theorem foldlM_map {g : σ → σ} {items : List ι}
    (step : ∀ i ∈ items, ∀ s, body (g s) i = (body s i).map g) (s : σ) :
    items.foldlM body (g s) = (items.foldlM body s).map g := by
  induction items generalizing s with
  | nil => rfl
  | cons i rest ih =>
    rw [List.foldlM_cons, List.foldlM_cons, step i List.mem_cons_self]
    cases body s i with
    | error e => rfl
    | ok t => exact ih (fun j hj => step j (List.mem_cons_of_mem _ hj)) t

theorem Stops.foldlM {P : ε → Prop} (items : List ι) (s : σ)
    (h : ∀ i ∈ items, ∀ s, Stops P (body s i)) : Stops P (items.foldlM body s) := by
  induction items generalizing s with
  | nil => exact stops_ok s
  | cons i rest ih =>
    rw [List.foldlM_cons]
    refine (h i List.mem_cons_self s).bind fun t _ => ?_
    exact ih t fun j hj => h j (List.mem_cons_of_mem _ hj)

/-- A loop of checks passes when each of them does. -/
theorem forM_eq_ok {check : ι → Except ε Unit} {items : List ι} (h : items.forM check = .ok ()) :
    ∀ i ∈ items, check i = .ok () := by
  induction items with
  | nil => simp
  | cons i rest ih =>
    obtain ⟨hi, h⟩ := check_bind_eq_ok.mp h
    intro j hj
    rcases List.mem_cons.mp hj with rfl | hj
    · exact hi
    · exact ih h j hj

/-- A loop of checks that all pass passes. -/
theorem forM_of_forall {check : ι → Except ε Unit} {items : List ι}
    (h : ∀ i ∈ items, check i = .ok ()) : items.forM check = .ok () := by
  induction items with
  | nil => rfl
  | cons i rest ih =>
    exact check_bind_eq_ok.mpr ⟨h i List.mem_cons_self,
      ih fun j hj => h j (List.mem_cons_of_mem _ hj)⟩

theorem Stops.forM {P : ε → Prop} {check : ι → Except ε Unit} (items : List ι)
    (h : ∀ i ∈ items, Stops P (check i)) : Stops P (items.forM check) := by
  induction items with
  | nil => exact stops_ok ()
  | cons i rest ih =>
    exact (h i List.mem_cons_self).bind fun _ _ => ih fun j hj => h j (List.mem_cons_of_mem _ hj)

/-- A loop that maps returns one result for each item. -/
theorem mapM_eq_ok {κ : Type} {f : ι → Except ε κ} {items : List ι} {results : List κ}
    (h : items.mapM f = .ok results) : List.Forall₂ (fun i r => f i = .ok r) items results := by
  induction items generalizing results with
  | nil =>
    rw [List.mapM_nil] at h
    cases h
    exact .nil
  | cons i rest ih =>
    rw [List.mapM_cons] at h
    obtain ⟨r, hr, h⟩ := bind_eq_ok.mp h
    obtain ⟨rs, hrs, h⟩ := bind_eq_ok.mp h
    cases h
    exact .cons hr (ih hrs)

/-- A loop that maps returns when it returns for each item. -/
theorem exists_mapM_ok {κ : Type} {f : ι → Except ε κ} {items : List ι}
    (h : ∀ i ∈ items, ∃ r, f i = .ok r) : ∃ results, items.mapM f = .ok results := by
  induction items with
  | nil => exact ⟨[], List.mapM_nil⟩
  | cons i rest ih =>
    obtain ⟨r, hr⟩ := h i List.mem_cons_self
    obtain ⟨rs, hrs⟩ := ih fun j hj => h j (List.mem_cons_of_mem _ hj)
    refine ⟨r :: rs, ?_⟩
    rw [List.mapM_cons, hr, ok_bind, hrs, ok_bind]
    rfl

/-- What a loop that maps returns comes from its items. -/
theorem exists_of_mem_mapM {κ : Type} {f : ι → Except ε κ} {items : List ι} {results : List κ}
    (h : items.mapM f = .ok results) {r : κ} (hr : r ∈ results) : ∃ i ∈ items, f i = .ok r := by
  obtain ⟨n, hn, rfl⟩ := List.mem_iff_getElem.mp hr
  have hlength := (mapM_eq_ok h).length_eq
  refine ⟨items[n], List.getElem_mem _, ?_⟩
  exact List.forall₂_iff_get.mp (mapM_eq_ok h) |>.2 n (hlength ▸ hn) hn

/-- A loop that maps returns a result for each of its items. -/
theorem ok_of_mem_mapM {κ : Type} {f : ι → Except ε κ} {items : List ι} {results : List κ}
    (h : items.mapM f = .ok results) {i : ι} (hi : i ∈ items) : ∃ r ∈ results, f i = .ok r := by
  obtain ⟨n, hn, rfl⟩ := List.mem_iff_getElem.mp hi
  have hlength := (mapM_eq_ok h).length_eq
  refine ⟨results.get ⟨n, hlength ▸ hn⟩, List.get_mem _ _, ?_⟩
  exact List.forall₂_iff_get.mp (mapM_eq_ok h) |>.2 n hn (hlength ▸ hn)

/-- A loop that maps returns what it returns for each item. -/
theorem mapM_eq_ok_of_forall {κ : Type} {f : ι → Except ε κ} {g : ι → κ} {items : List ι}
    (h : ∀ i ∈ items, f i = .ok (g i)) : items.mapM f = .ok (items.map g) := by
  induction items with
  | nil => exact List.mapM_nil
  | cons i rest ih =>
    rw [List.mapM_cons, h i List.mem_cons_self, ok_bind,
      ih fun j hj => h j (List.mem_cons_of_mem _ hj), ok_bind]
    rfl

theorem mapM_congr {κ : Type} {f g : ι → Except ε κ} {items : List ι}
    (h : ∀ i ∈ items, f i = g i) : items.mapM f = items.mapM g := by
  induction items with
  | nil => rw [List.mapM_nil, List.mapM_nil]
  | cons i rest ih =>
    rw [List.mapM_cons, List.mapM_cons, h i List.mem_cons_self,
      ih fun j hj => h j (List.mem_cons_of_mem _ hj)]

/-- A loop over two lists is the loop over the first and then over the second. -/
theorem foldlM_append (xs ys : List ι) (s : σ) :
    (xs ++ ys).foldlM body s = xs.foldlM body s >>= fun t => ys.foldlM body t :=
  List.foldlM_append

end Loops

end Checked
