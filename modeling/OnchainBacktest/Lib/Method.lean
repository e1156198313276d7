import OnchainBacktest.Lib.Checked

/-!
# Methods of an object

A method returns or raises, and leaves its object behind either way: what it has written before it
raises stays written.  `Method.Implements` says that a method is a checked function of its object
that changes nothing when it raises.

The rules follow the shape of a body: what only reads comes first (`Method.read_bind_eq_leave`), and
after the first write nothing may raise any more.
-/

set_option autoImplicit false

variable {σ ε α β : Type}

/-- The result of a method, and the object it leaves behind. -/
structure Method (σ ε α : Type) where
  run : σ → Except ε α × σ

namespace Method

instance instMonadMethod : Monad (Method σ ε) where
  pure a := ⟨fun s => (.ok a, s)⟩
  bind m f := ⟨fun s =>
    match m.run s with
    | (.ok a, s') => (f a).run s'
    | (.error e, s') => (.error e, s')⟩

/-- A part that only reads: it may raise. -/
def read (f : σ → Except ε α) : Method σ ε α := ⟨fun s => (f s, s)⟩

/-- A look at the object, which cannot raise. -/
def ask (f : σ → α) : Method σ ε α := ⟨fun s => (.ok (f s), s)⟩

/-- A part that only writes. -/
def write (g : σ → σ) : Method σ ε Unit := ⟨fun s => (.ok (), g s)⟩

@[simp] theorem run_pure (a : α) (s : σ) : (pure a : Method σ ε α).run s = (.ok a, s) := rfl

@[simp] theorem run_read (f : σ → Except ε α) (s : σ) : (read f).run s = (f s, s) := rfl

@[simp] theorem run_ask (f : σ → α) (s : σ) : (ask f : Method σ ε α).run s = (.ok (f s), s) := rfl

@[simp] theorem run_write (g : σ → σ) (s : σ) :
    (write g : Method σ ε Unit).run s = (.ok (), g s) := rfl

@[simp] theorem run_write_bind (w : σ → σ) (g : Unit → Method σ ε α) (s : σ) :
    (write w >>= g).run s = (g ()).run (w s) := rfl

@[simp] theorem run_ask_bind (f : σ → β) (g : β → Method σ ε α) (s : σ) :
    (ask f >>= g).run s = (g (f s)).run s := rfl

/-- A part that returns hands its value and its object on. -/
theorem run_bind_ok {m : Method σ ε β} {g : β → Method σ ε α} {s s' : σ} {b : β}
    (h : m.run s = (.ok b, s')) : (m >>= g).run s = (g b).run s' := by
  show (match m.run s with
    | (.ok b, s') => (g b).run s'
    | (.error e, s') => (.error e, s')) = _
  rw [h]

/-- A part that raises ends the method with the object it leaves. -/
theorem run_bind_error {m : Method σ ε β} {g : β → Method σ ε α} {s s' : σ} {e : ε}
    (h : m.run s = (.error e, s')) : (m >>= g).run s = (.error e, s') := by
  show (match m.run s with
    | (.ok b, s') => (g b).run s'
    | (.error e, s') => (.error e, s')) = _
  rw [h]

theorem run_read_bind (f : σ → Except ε β) (g : β → Method σ ε α) (s : σ) :
    (read f >>= g).run s = match (f s, s) with
      | (.ok b, s') => (g b).run s'
      | (.error e, s') => (.error e, s') := rfl

theorem run_read_bind_ok {f : σ → Except ε β} {g : β → Method σ ε α} {s : σ} {b : β}
    (h : f s = .ok b) : (read f >>= g).run s = (g b).run s := by
  rw [run_read_bind, h]

theorem run_read_bind_error {f : σ → Except ε β} {g : β → Method σ ε α} {s : σ} {e : ε}
    (h : f s = .error e) : (read f >>= g).run s = (.error e, s) := by
  rw [run_read_bind, h]

/-- What a checked function makes of an object, as a method: an object that was refused is left as
it was. -/
def leave (s : σ) : Except ε (σ × α) → Except ε α × σ
  | .ok (s', a) => (.ok a, s')
  | .error e => (.error e, s)

/-- The method returns what the function returns and leaves what the function makes of the object;
where the function stops, it raises and leaves the object as it was. -/
def Implements (m : Method σ ε α) (f : σ → Except ε (σ × α)) : Prop := ∀ s, m.run s = leave s (f s)

/-- **A method that raises leaves its object unchanged.** -/
theorem Implements.unchanged {m : Method σ ε α} {f : σ → Except ε (σ × α)} (h : m.Implements f)
    {s : σ} {e : ε} (hraise : (m.run s).1 = .error e) : (m.run s).2 = s := by
  rw [h s] at hraise ⊢
  cases hf : f s with
  | error e' => rfl
  | ok result =>
    rw [hf] at hraise
    cases hraise

/-- A part that only reads comes before what is still to be done, for the method and the function
alike. -/
theorem read_bind_eq_leave {f : σ → Except ε β} {g : β → Method σ ε α}
    {G : β → Except ε (σ × α)} {s : σ} (h : ∀ b, f s = .ok b → (g b).run s = leave s (G b)) :
    (read f >>= g).run s = leave s (f s >>= G) := by
  cases hf : f s with
  | error e =>
    rw [run_read_bind_error hf]
    rfl
  | ok b =>
    rw [run_read_bind_ok hf, h b hf]
    rfl

end Method
