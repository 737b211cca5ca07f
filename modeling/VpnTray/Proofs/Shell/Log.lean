import VpnTray.Client.Basic

/-!
# What work runs

Work that runs programs leaves a *log*: the programs that it has run, in their order, each
with how it ended. How a program ends is up to the machine, so that the same work may leave
many logs.

* `Ends`: all the logs that some work may leave, with the results that go with them;
* `log`: the log that it leaves on one machine, which is one of them (`ends_log`);
* `ends_bind_iff`, `ends_attempt_bind_iff`: work in sequence leaves one log after the other;
* `Only`: whatever happens, all the programs that are run are of some kind.
-/

namespace VpnTray

/-- Programs that have been run, in their order, and how each of them ended. -/
abbrev Log := List (Run × Outcome)

namespace Shell

variable {α β σ : Type}

/-- The log that some work leaves on a machine. -/
def log (machine : Run → σ → Outcome × σ) : Shell α → σ → Log
  | done _, _ => []
  | run r next, s => (r, (machine r s).1) :: (next (machine r s).1).log machine (machine r s).2

variable {work : Shell α} {log : Log} {a : α} {p : Run → Prop}

/-- Some work may leave a log and end with a result. -/
inductive Ends : Shell α → Log → α → Prop
  | done (a : α) : Ends (.done a) [] a
  | run (r : Run) {next : Outcome → Shell α} (outcome : Outcome) {log : Log} {a : α}
    (h : Ends (next outcome) log a) : Ends (.run r next) ((r, outcome) :: log) a

theorem ends_log (machine : Run → σ → Outcome × σ) (work : Shell α) (s : σ) :
    Ends work (work.log machine s) (work.exec machine s).1 := by
  induction work generalizing s with
  | done a => exact .done a
  | run r next ih => exact .run r _ (ih _ _)

/-! ## Work in sequence -/

theorem log_bind (machine : Run → σ → Outcome × σ) (work : Shell α) (f : α → Shell β) (s : σ) :
    (work >>= f).log machine s =
      work.log machine s ++ (f (work.exec machine s).1).log machine (work.exec machine s).2 := by
  induction work generalizing s with
  | done => rfl
  | run r next ih => exact congrArg (_ :: ·) (ih _ _)

theorem log_call (machine : Run → σ → Outcome × σ) (program : Text) (args : List Text)
    (stdin : Text) (s : σ) :
    (call program args stdin).log machine s =
      [({ program, args, stdin }, (machine { program, args, stdin } s).1)] := rfl

theorem ends_pure_iff {b : α} : Ends (pure a) log b ↔ log = [] ∧ b = a := by
  constructor
  · rintro ⟨⟩
    exact ⟨rfl, rfl⟩
  · rintro ⟨rfl, rfl⟩
    exact .done _

theorem ends_call_iff {program : Text} {args : List Text} {stdin : Text} {outcome : Outcome} :
    Ends (call program args stdin) log outcome ↔ log = [({ program, args, stdin }, outcome)] := by
  constructor
  · rintro (_ | ⟨_, _, ⟨⟩⟩)
    rfl
  · rintro rfl
    exact .run _ _ (.done _)

theorem ends_bind_iff {f : α → Shell β} {b : β} :
    Ends (work >>= f) log b ↔
      ∃ first a rest, log = first ++ rest ∧ Ends work first a ∧ Ends (f a) rest b := by
  constructor
  · intro h
    induction work generalizing log with
    | done a => exact ⟨[], a, log, rfl, .done a, h⟩
    | run r next ih =>
      cases h with
      | run _ outcome h =>
        obtain ⟨first, a, rest, rfl, hfirst, hrest⟩ := ih outcome h
        exact ⟨_, a, rest, rfl, .run r outcome hfirst, hrest⟩
  · rintro ⟨first, a, rest, rfl, hfirst, hrest⟩
    induction hfirst with
    | done a => exact hrest
    | run r outcome _ ih => exact .run r outcome (ih hrest)

/-- Work that goes on after one program leaves its run first. -/
theorem ends_call_bind_iff {program : Text} {args : List Text} {stdin : Text}
    {f : Outcome → Shell β} {b : β} :
    Ends (call program args stdin >>= f) log b ↔
      ∃ outcome rest, log = ({ program, args, stdin }, outcome) :: rest ∧
        Ends (f outcome) rest b := by
  rw [ends_bind_iff]
  constructor
  · rintro ⟨first, outcome, rest, rfl, hfirst, hrest⟩
    obtain rfl := ends_call_iff.1 hfirst
    exact ⟨outcome, rest, rfl, hrest⟩
  · rintro ⟨outcome, rest, rfl, hrest⟩
    exact ⟨_, outcome, rest, rfl, ends_call_iff.2 rfl, hrest⟩

theorem ends_map_iff {f : α → β} {b : β} :
    Ends (f <$> work) log b ↔ ∃ a, Ends work log a ∧ b = f a := by
  rw [map_eq_pure_bind, ends_bind_iff]
  constructor
  · rintro ⟨first, a, rest, rfl, hfirst, hrest⟩
    obtain ⟨rfl, rfl⟩ := ends_pure_iff.1 hrest
    exact ⟨a, (List.append_nil first).symm ▸ hfirst, rfl⟩
  · rintro ⟨a, h, rfl⟩
    exact ⟨log, a, [], (List.append_nil log).symm, h, .done _⟩

/-- Work whose result does not matter. -/
theorem ends_bind_pure_iff {b c : β} :
    Ends (work >>= fun _ => pure c) log b ↔ (∃ a, Ends work log a) ∧ b = c := by
  rw [← map_eq_pure_bind, ends_map_iff]
  exact exists_and_right

theorem ends_discard_iff {u : Unit} : Ends (discard work) log u ↔ ∃ a, Ends work log a := by
  rw [discard, map_const, Function.comp_apply, ends_map_iff]
  exact exists_congr fun _ => and_iff_left rfl

/-- Work that cannot fail, among other work that may. -/
theorem ends_lift_iff {result : Except Error α} :
    Ends (liftM work : Attempt α).run log result ↔ ∃ a, Ends work log a ∧ result = .ok a :=
  ends_map_iff

/-- Work that may fail is followed by other work, unless it fails. -/
theorem ends_attempt_bind_iff {work : Attempt α} {f : α → Attempt β} {result : Except Error β} :
    Ends (work >>= f).run log result ↔
      (∃ first a rest, log = first ++ rest ∧ Ends work.run first (.ok a) ∧
        Ends (f a).run rest result) ∨
      ∃ cause, Ends work.run log (.error cause) ∧ result = .error cause := by
  rw [ExceptT.run_bind, ends_bind_iff]
  constructor
  · rintro ⟨first, cause | a, rest, rfl, hfirst, hrest⟩
    · obtain ⟨rfl, rfl⟩ := ends_pure_iff.1 hrest
      exact .inr ⟨cause, (List.append_nil first).symm ▸ hfirst, rfl⟩
    · exact .inl ⟨first, a, rest, rfl, hfirst, hrest⟩
  · rintro (⟨first, a, rest, rfl, hfirst, hrest⟩ | ⟨cause, h, rfl⟩)
    · exact ⟨first, .ok a, rest, rfl, hfirst, hrest⟩
    · exact ⟨log, .error cause, [], (List.append_nil log).symm, h, .done _⟩

/-! ## The programs that are run -/

/-- Some work runs only programs of some kind, whatever comes of them. -/
def Only (p : Run → Prop) (work : Shell α) : Prop :=
  ∀ log a, Ends work log a → ∀ entry ∈ log, p entry.1

theorem only_pure (p : Run → Prop) (a : α) : Only p (pure a) := by
  intro log b h
  obtain ⟨rfl, -⟩ := ends_pure_iff.1 h
  exact nofun

theorem only_call {program : Text} {args : List Text} {stdin : Text}
    (h : p { program, args, stdin }) : Only p (call program args stdin) := by
  intro log outcome hends
  obtain rfl := ends_call_iff.1 hends
  exact List.forall_mem_singleton.2 h

theorem Only.bind {f : α → Shell β} (h : Only p work) (hf : ∀ a, Only p (f a)) :
    Only p (work >>= f) := by
  intro log b hends
  obtain ⟨first, a, rest, rfl, hfirst, hrest⟩ := ends_bind_iff.1 hends
  exact List.forall_mem_append.2 ⟨h first a hfirst, hf a rest b hrest⟩

theorem Only.discard (h : Only p work) : Only p (discard work) := by
  intro log u hends
  obtain ⟨a, hends⟩ := ends_discard_iff.1 hends
  exact h log a hends

theorem Only.lift (h : Only p work) : Only p (liftM work : Attempt α).run := by
  intro log result hends
  obtain ⟨a, hends, -⟩ := ends_lift_iff.1 hends
  exact h log a hends

theorem Only.attempt_bind {work : Attempt α} {f : α → Attempt β} (h : Only p work.run)
    (hf : ∀ a, Only p (f a).run) : Only p (work >>= f).run := by
  rw [ExceptT.run_bind]
  refine h.bind fun result => ?_
  cases result with
  | ok a => exact hf a
  | error cause => exact only_pure p _

end Shell

end VpnTray
