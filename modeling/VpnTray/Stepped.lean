/-!
# Work in steps

Several threads, or several processes, may work on one shared state at the same
time. Each does so in *steps*, none of which is interrupted: a section under a
lock, sending one signal, one operation on a file. `Stepped σ α` is such a piece
of work: it tells its steps apart, so that the steps of others can come between
them, and gives an `α` in the end.

* `Stepped.run`: all the steps in a row, with nothing between them;
* `Stepped.Step`: one step of some work, as a relation.
-/

namespace VpnTray

/-- Work on a shared state `σ` that gives an `α`. A step changes the state by `write`
    and goes on by what it found before the change. -/
inductive Stepped (σ α : Type) where
  | done (a : α)
  | step (write : σ → σ) (next : σ → Stepped σ α)

namespace Stepped

variable {σ α β : Type}

/-- First one piece of work, then another that depends on its result. -/
def bind : Stepped σ α → (α → Stepped σ β) → Stepped σ β
  | done a, f => f a
  | step write next, f => step write fun s => (next s).bind f

instance : Monad (Stepped σ) where
  pure := done
  bind := bind

/-- One step that gives a result and changes the state. -/
def act (f : σ → α × σ) : Stepped σ α := step (fun s => (f s).2) (fun s => done (f s).1)

/-- One step that only looks at the state. -/
def get (f : σ → α) : Stepped σ α := step id (fun s => done (f s))

/-- One step that only changes the state. -/
def modify (f : σ → σ) : Stepped σ Unit := step f (fun _ => done ())

/-- All the steps in a row. -/
def run : Stepped σ α → σ → α × σ
  | done a, s => (a, s)
  | step write next, s => (next s).run (write s)

/-- One step of some work from a state leads to the rest of the work and a new state. -/
inductive Step : Stepped σ α × σ → Stepped σ α × σ → Prop
  | step (write : σ → σ) (next : σ → Stepped σ α) (s : σ) :
    Step (.step write next, s) (next s, write s)

@[simp] theorem run_pure (a : α) (s : σ) : (pure a : Stepped σ α).run s = (a, s) := rfl

@[simp] theorem run_bind (work : Stepped σ α) (f : α → Stepped σ β) (s : σ) :
    (work >>= f).run s = (f (work.run s).1).run (work.run s).2 := by
  induction work generalizing s with
  | done => rfl
  | step write next ih => exact ih s (write s)

@[simp] theorem run_act (f : σ → α × σ) (s : σ) : (act f).run s = f s := rfl

@[simp] theorem run_get (f : σ → α) (s : σ) : (get f).run s = (f s, s) := rfl

@[simp] theorem run_modify (f : σ → σ) (s : σ) : (modify f).run s = ((), f s) := rfl

/-! ## Steps of work in sequence -/

theorem step_iff {write : σ → σ} {next : σ → Stepped σ α} {s : σ} {after : Stepped σ α × σ} :
    Step (.step write next, s) after ↔ after = (next s, write s) := by
  constructor
  · rintro ⟨⟩
    rfl
  · rintro rfl
    exact .step write next s

theorem step_act_bind {f : σ → α × σ} {g : α → Stepped σ β} {s : σ}
    {after : Stepped σ β × σ} : Step (act f >>= g, s) after ↔ after = (g (f s).1, (f s).2) :=
  step_iff

theorem step_get_bind {f : σ → α} {g : α → Stepped σ β} {s : σ} {after : Stepped σ β × σ} :
    Step (get f >>= g, s) after ↔ after = (g (f s), s) :=
  step_iff

theorem step_modify_bind {f : σ → σ} {g : Unit → Stepped σ β} {s : σ}
    {after : Stepped σ β × σ} : Step (modify f >>= g, s) after ↔ after = (g (), f s) :=
  step_iff

theorem not_step_pure {a : α} {s : σ} {after : Stepped σ α × σ} : ¬Step (pure a, s) after :=
  nofun

/-- A step is the first of all the steps in a row. -/
theorem Step.run_eq {work rest : Stepped σ α} {s s' : σ} (h : Step (work, s) (rest, s')) :
    work.run s = rest.run s' := by
  cases h
  rfl

/-! ## The laws of a monad -/

theorem bind_done (work : Stepped σ α) : work.bind done = work := by
  induction work with
  | done => rfl
  | step write next ih => simp [bind, ih]

theorem bind_assoc {γ : Type} (work : Stepped σ α) (f : α → Stepped σ β)
    (g : β → Stepped σ γ) : (work.bind f).bind g = work.bind fun a => (f a).bind g := by
  induction work with
  | done => rfl
  | step write next ih => simp [bind, ih]

instance : LawfulMonad (Stepped σ) :=
  LawfulMonad.mk' _ bind_done (fun _ _ => rfl) bind_assoc

@[simp] theorem run_map (f : α → β) (work : Stepped σ α) (s : σ) :
    (f <$> work).run s = (f (work.run s).1, (work.run s).2) := by
  rw [map_eq_pure_bind, run_bind, run_pure]

@[simp] theorem run_discard (work : Stepped σ α) (s : σ) :
    (discard work).run s = ((), (work.run s).2) := by
  rw [discard, map_const, Function.comp_apply, run_map]

end Stepped

end VpnTray
