import VpnTray.Stepped

/-!
# What work sees

At each of its steps, some work sees the state that it finds. What comes of it depends on these
states alone, whatever others do in between (`Sees`).

Work that only looks leaves every state as it is (`Looks`). If it looks once at most, what comes
of it is what would have come of it in the state that it saw, had all of it been done there
(`Glance`, `Sees.of_glance`).
-/

namespace VpnTray.Stepped

variable {σ α β : Type}

/-- Some work sees some states at its steps, one after the other, and ends with a result. -/
inductive Sees : Stepped σ α → List σ → α → Prop
  | done (a : α) : Sees (.done a) [] a
  | step (write : σ → σ) {next : σ → Stepped σ α} (s : σ) {seen : List σ} {a : α}
    (h : Sees (next s) seen a) : Sees (.step write next) (s :: seen) a

/-- Some work does nothing but look at the state. -/
inductive Looks : Stepped σ α → Prop
  | done (a : α) : Looks (.done a)
  | step {write : σ → σ} {next : σ → Stepped σ α} (hwrite : ∀ s, write s = s)
    (hnext : ∀ s, Looks (next s)) : Looks (.step write next)

/-- Some work does nothing but look at the state, once at most. -/
inductive Glance : Stepped σ α → Prop
  | done (a : α) : Glance (.done a)
  | look {write : σ → σ} (hwrite : ∀ s, write s = s) (f : σ → α) :
    Glance (.step write fun s => .done (f s))

variable {work : Stepped σ α} {seen : List σ} {a : α}

theorem sees_pure_iff {b : α} : Sees (pure a : Stepped σ α) seen b ↔ seen = [] ∧ b = a := by
  constructor
  · rintro ⟨⟩
    exact ⟨rfl, rfl⟩
  · rintro ⟨rfl, rfl⟩
    exact .done _

theorem sees_get_bind_iff {f : σ → α} {g : α → Stepped σ β} {b : β} :
    Sees (get f >>= g) seen b ↔ ∃ s rest, seen = s :: rest ∧ Sees (g (f s)) rest b := by
  constructor
  · rintro (_ | ⟨_, s, h⟩)
    exact ⟨s, _, rfl, h⟩
  · rintro ⟨s, rest, rfl, h⟩
    exact .step id s h

theorem sees_act_bind_iff {f : σ → α × σ} {g : α → Stepped σ β} {b : β} :
    Sees (act f >>= g) seen b ↔ ∃ s rest, seen = s :: rest ∧ Sees (g (f s).1) rest b := by
  constructor
  · rintro (_ | ⟨_, s, h⟩)
    exact ⟨s, _, rfl, h⟩
  · rintro ⟨s, rest, rfl, h⟩
    exact .step _ s h

/-- Work in sequence sees what the first piece of it sees, and then what the other one does. -/
theorem sees_bind_iff {f : α → Stepped σ β} {b : β} :
    Sees (work >>= f) seen b ↔
      ∃ first a rest, seen = first ++ rest ∧ Sees work first a ∧ Sees (f a) rest b := by
  constructor
  · intro h
    induction work generalizing seen with
    | done a => exact ⟨[], a, seen, rfl, .done a, h⟩
    | step write next ih =>
      cases h with
      | step _ s h =>
        obtain ⟨first, a, rest, rfl, hfirst, hrest⟩ := ih s h
        exact ⟨s :: first, a, rest, rfl, .step write s hfirst, hrest⟩
  · rintro ⟨first, a, rest, rfl, hfirst, hrest⟩
    induction hfirst with
    | done a => exact hrest
    | step write s _ ih => exact .step write s (ih hrest)

theorem sees_map_iff {f : α → β} {b : β} :
    Sees (f <$> work) seen b ↔ ∃ a, Sees work seen a ∧ b = f a := by
  rw [map_eq_pure_bind, sees_bind_iff]
  constructor
  · rintro ⟨first, a, rest, rfl, hfirst, hrest⟩
    obtain ⟨rfl, rfl⟩ := sees_pure_iff.1 hrest
    exact ⟨a, (List.append_nil first).symm ▸ hfirst, rfl⟩
  · rintro ⟨a, h, rfl⟩
    exact ⟨seen, a, [], (List.append_nil seen).symm, h, .done _⟩

/-- What a step finds is seen before what the rest of the work sees. -/
theorem Sees.of_step {rest : Stepped σ α} {s s' : σ} (h : Sees rest seen a)
    (hstep : Step (work, s) (rest, s')) : Sees work (s :: seen) a := by
  cases hstep
  exact .step _ s h

/-! ## Work that looks -/

/-- A step of work that looks is a look. -/
theorem Looks.of_step {rest : Stepped σ α} {s s' : σ} (h : Looks work)
    (hstep : Step (work, s) (rest, s')) : s' = s ∧ Looks rest := by
  cases hstep
  cases h with
  | step hwrite hnext => exact ⟨hwrite s, hnext s⟩

theorem Looks.run_snd (h : Looks work) (s : σ) : (work.run s).2 = s := by
  induction h generalizing s with
  | done a => rfl
  | step hwrite _ ih => exact (ih s _).trans (hwrite s)

theorem Looks.map (h : Looks work) (f : α → β) : Looks (f <$> work) := by
  rw [map_eq_pure_bind]
  induction h with
  | done a => exact .done (f a)
  | step hwrite _ ih => exact .step hwrite ih

theorem Glance.looks (h : Glance work) : Looks work := by
  cases h with
  | done a => exact .done a
  | look hwrite f => exact .step hwrite fun s => .done (f s)

theorem Glance.pure (a : α) : Glance (pure a : Stepped σ α) := .done a

theorem Glance.map (h : Glance work) (f : α → β) : Glance (f <$> work) := by
  cases h with
  | done a => exact .done (f a)
  | look hwrite g => exact .look hwrite fun s => f (g s)

/-- What comes of work that looks once at most is what comes of it in the state that it saw, or
    in any state if it has seen none. -/
theorem Sees.of_glance {states : List σ} (h : Sees work seen a) (hwork : Glance work)
    (hseen : seen ⊆ states) (hne : states ≠ []) : ∃ s ∈ states, a = (work.run s).1 := by
  cases hwork with
  | done b =>
    obtain ⟨s, hs⟩ := List.exists_mem_of_ne_nil states hne
    obtain ⟨-, rfl⟩ := sees_pure_iff.1 h
    exact ⟨s, hs, rfl⟩
  | look hwrite f =>
    cases h with
    | step _ s h =>
      obtain ⟨-, rfl⟩ := sees_pure_iff.1 h
      exact ⟨s, hseen List.mem_cons_self, rfl⟩

end VpnTray.Stepped
