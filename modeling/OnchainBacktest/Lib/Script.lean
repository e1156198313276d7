import Mathlib.Data.List.Basic

/-!
# Scripts of atomic steps

A script is a list of atomic steps over a state; each step goes through or fails, and a failure
leaves the state as it was and ends the script.  `Script.exec` keeps the state a script has got to,
also when it has failed.

A script that is cut off between two steps has executed a part of it that goes before the rest
(`Script.CutOff`).  The rules are those of an invariant: what every step keeps holds wherever the
script ends (`Script.exec_invariant`), a step that an invariant rules out is never passed
(`Script.exec_blocked`), and what one step establishes holds after it (`Script.exec_establishes`).
-/

set_option autoImplicit false

universe u v w

namespace Script

variable {ι : Type u} {σ : Type v} {ε : Type w} {run : ι → σ → Except ε σ}

/-- Execute the steps in order, up to the first that fails. -/
def exec (run : ι → σ → Except ε σ) : List ι → σ → σ × Option ε
  | [], s => (s, none)
  | step :: rest, s =>
    match run step s with
    | .error fault => (s, some fault)
    | .ok s' => exec run rest s'

@[simp] theorem exec_nil (s : σ) : exec run [] s = (s, none) := rfl

theorem exec_cons_of_ok {step : ι} {rest : List ι} {s s' : σ} (h : run step s = .ok s') :
    exec run (step :: rest) s = exec run rest s' := by
  rw [exec, h]

theorem exec_cons_of_error {step : ι} {rest : List ι} {s : σ} {fault : ε}
    (h : run step s = .error fault) : exec run (step :: rest) s = (s, some fault) := by
  rw [exec, h]

theorem exec_append (first second : List ι) (s : σ) : exec run (first ++ second) s =
    match exec run first s with
    | (s', none) => exec run second s'
    | (s', some fault) => (s', some fault) := by
  induction first generalizing s with
  | nil => rfl
  | cons step rest ih =>
    rw [List.cons_append, exec, exec]
    cases run step s with
    | error fault => rfl
    | ok s' => exact ih s'

theorem exec_append_of_ok {first second : List ι} {s s' : σ}
    (h : exec run first s = (s', none)) :
    exec run (first ++ second) s = exec run second s' := by
  rw [exec_append, h]

theorem exec_append_of_fault {first second : List ι} {s s' : σ} {fault : ε}
    (h : exec run first s = (s', some fault)) :
    exec run (first ++ second) s = (s', some fault) := by
  rw [exec_append, h]

/-- A script that goes through has gone through its first part. -/
theorem exec_append_eq_ok {first second : List ι} {s s'' : σ} :
    exec run (first ++ second) s = (s'', none) ↔
      ∃ s', exec run first s = (s', none) ∧ exec run second s' = (s'', none) := by
  rw [exec_append]
  cases hfirst : exec run first s with
  | mk s' fault =>
    cases fault with
    | none => simp
    | some fault => simp

/-- The script was cut off after some of its steps. -/
def CutOff (run : ι → σ → Except ε σ) (steps done : List ι) (s s' : σ) : Prop :=
  done <+: steps ∧ exec run done s = (s', none)

/-- A script was cut off before its first step, or this one went through. -/
theorem cutOff_cons {step : ι} {rest done : List ι} {s s' : σ}
    (h : CutOff run (step :: rest) done s s') :
    s' = s ∨ ∃ t before, run step s = .ok t ∧ CutOff run rest before t s' := by
  obtain ⟨hbegins, hexec⟩ := h
  cases done with
  | nil =>
    rw [exec_nil] at hexec
    exact .inl (congrArg Prod.fst hexec).symm
  | cons first before =>
    obtain ⟨rfl, hrest⟩ := List.cons_prefix_cons.mp hbegins
    cases hstep : run first s with
    | error fault =>
      rw [exec_cons_of_error hstep] at hexec
      cases hexec
    | ok t =>
      rw [exec_cons_of_ok hstep] at hexec
      exact .inr ⟨t, before, rfl, hrest, hexec⟩

theorem cutOff_nil {done : List ι} {s s' : σ} (h : CutOff run [] done s s') : s' = s := by
  obtain ⟨hbegins, hexec⟩ := h
  obtain rfl := List.prefix_nil.mp hbegins
  rw [exec_nil] at hexec
  exact (congrArg Prod.fst hexec).symm

/-- What every step keeps holds where a script was cut off. -/
theorem CutOff.keeps {P : σ → Prop} {steps done : List ι} {s s' : σ}
    (h : CutOff run steps done s s')
    (keeps : ∀ step ∈ steps, ∀ s s', P s → run step s = .ok s' → P s') (hs : P s) : P s' := by
  induction steps generalizing s done with
  | nil => exact cutOff_nil h ▸ hs
  | cons step rest ih =>
    rcases cutOff_cons h with rfl | ⟨t, before, hstep, hrest⟩
    · exact hs
    · exact ih hrest (fun other hother => keeps other (List.mem_cons_of_mem _ hother))
        (keeps step List.mem_cons_self s t hs hstep)

/-- **What every step keeps holds where a script ends**, also when it fails. -/
theorem exec_invariant {P : σ → Prop} {steps : List ι}
    (keeps : ∀ step ∈ steps, ∀ s s', P s → run step s = .ok s' → P s') {s : σ} (h : P s) :
    P (exec run steps s).1 := by
  induction steps generalizing s with
  | nil => exact h
  | cons step rest ih =>
    cases hstep : run step s with
    | error fault =>
      rw [exec_cons_of_error hstep]
      exact h
    | ok s' =>
      rw [exec_cons_of_ok hstep]
      exact ih (fun other hother => keeps other (List.mem_cons_of_mem _ hother))
        (keeps step List.mem_cons_self s s' h hstep)

/-- **A script does not get past a step that an invariant of its steps rules out.** -/
theorem exec_blocked {P : σ → Prop} {steps : List ι}
    (keeps : ∀ step ∈ steps, ∀ s s', P s → run step s = .ok s' → P s') {blocked : ι}
    (hblocked : blocked ∈ steps) (hfails : ∀ s s', P s → run blocked s ≠ .ok s') {s : σ}
    (h : P s) : ∃ fault, (exec run steps s).2 = some fault := by
  induction steps generalizing s with
  | nil => cases hblocked
  | cons step rest ih =>
    cases hstep : run step s with
    | error fault =>
      rw [exec_cons_of_error hstep]
      exact ⟨fault, rfl⟩
    | ok s' =>
      rw [exec_cons_of_ok hstep]
      have hkept := keeps step List.mem_cons_self s s' h hstep
      rcases List.mem_cons.mp hblocked with rfl | hrest
      · exact absurd hstep (hfails s s' h)
      · exact ih (fun other hother => keeps other (List.mem_cons_of_mem _ hother)) hrest hkept

/-- What every step keeps, from the state a script began with to the one it ended in. -/
theorem exec_keeps {P : σ → Prop} {steps : List ι} {s s' : σ} {fault : Option ε}
    (h : exec run steps s = (s', fault))
    (keeps : ∀ step ∈ steps, ∀ s s', P s → run step s = .ok s' → P s') (hs : P s) : P s' := by
  have hkept := exec_invariant keeps hs
  rw [h] at hkept
  exact hkept

/-- What one of its steps establishes and every step keeps holds after a script that went
through. -/
theorem exec_establishes {P : σ → Prop} {steps : List ι} {s s' : σ}
    (h : exec run steps s = (s', none))
    (keeps : ∀ step ∈ steps, ∀ s s', P s → run step s = .ok s' → P s') {landmark : ι}
    (hlandmark : landmark ∈ steps) (establishes : ∀ s s', run landmark s = .ok s' → P s') :
    P s' := by
  obtain ⟨before, after, rfl⟩ := List.append_of_mem hlandmark
  obtain ⟨t, -, h⟩ := exec_append_eq_ok.mp h
  cases hstep : run landmark t with
  | error fault =>
    rw [exec_cons_of_error hstep] at h
    cases h
  | ok t' =>
    rw [exec_cons_of_ok hstep] at h
    refine exec_keeps h (fun step hmem => keeps step ?_) (establishes t t' hstep)
    exact List.mem_append_right _ (List.mem_cons_of_mem _ hmem)

/-- A part of a script that has a step has everything before the step. -/
theorem prefix_through {before after done : List ι} {step : ι}
    (h : done <+: before ++ step :: after) (hstep : step ∈ done) (hnew : step ∉ before) :
    before ++ [step] <+: done := by
  have hthrough : before ++ [step] <+: before ++ step :: after :=
    ⟨after, by rw [List.append_assoc, List.singleton_append]⟩
  rcases List.prefix_or_prefix_of_prefix hthrough h with hdone | hdone
  · exact hdone
  · rcases List.prefix_concat_iff.mp hdone with heq | hbefore
    · exact heq ▸ List.prefix_refl _
    · exact absurd (hbefore.subset hstep) hnew

end Script
