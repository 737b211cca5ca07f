import VpnTray.Stepped

/-!
# Work among others

Between two steps of some work, others may change the state as they like. What they do is
given by `others n`, all that they change between the steps `n` and `n + 1` of the work; and so
the work has an outcome whatever they do (`runAmid`).
-/

namespace VpnTray.Stepped

variable {σ α β : Type} {others : Nat → σ → σ}

/-- All the steps of some work, where others act before each of them. The steps are numbered, and
    with the result comes the number of the next one. -/
def runAmid (others : Nat → σ → σ) : Stepped σ α → Nat × σ → α × (Nat × σ)
  | done a, (n, s) => (a, (n, s))
  | step write next, (n, s) => (next (others n s)).runAmid others (n + 1, write (others n s))

@[simp] theorem runAmid_pure (a : α) (moment : Nat × σ) :
    (pure a : Stepped σ α).runAmid others moment = (a, moment) := rfl

@[simp] theorem runAmid_bind (work : Stepped σ α) (f : α → Stepped σ β) (moment : Nat × σ) :
    (work >>= f).runAmid others moment =
      (f (work.runAmid others moment).1).runAmid others (work.runAmid others moment).2 := by
  induction work generalizing moment with
  | done => rfl
  | step write next ih => exact ih _ _

@[simp] theorem runAmid_act (f : σ → α × σ) (moment : Nat × σ) :
    (act f).runAmid others moment =
      ((f (others moment.1 moment.2)).1,
        (moment.1 + 1, (f (others moment.1 moment.2)).2)) := rfl

@[simp] theorem runAmid_get (f : σ → α) (moment : Nat × σ) :
    (get f).runAmid others moment =
      (f (others moment.1 moment.2), (moment.1 + 1, others moment.1 moment.2)) := rfl

@[simp] theorem runAmid_modify (f : σ → σ) (moment : Nat × σ) :
    (modify f).runAmid others moment =
      ((), (moment.1 + 1, f (others moment.1 moment.2))) := rfl

@[simp] theorem runAmid_discard (work : Stepped σ α) (moment : Nat × σ) :
    (discard work).runAmid others moment = ((), (work.runAmid others moment).2) := by
  rw [discard, map_const, Function.comp_apply, map_eq_pure_bind, runAmid_bind]
  rfl

end VpnTray.Stepped
