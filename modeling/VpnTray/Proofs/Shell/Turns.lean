import VpnTray.Proofs.Shell.Log

/-!
# Work that is done again and again

A loop takes one turn after the other until one says that it was the last (`Loops`). It may go on
for ever, whereas the work that is run is cut off at a limit. The limit tells nothing about the loop:

* what a loop leaves that has ended is what is left of it within some limit (`loops_iff`);
* once the loop has ended within a limit, it is the same with any greater one (`turns_of_le`).
-/

namespace VpnTray.Shell

variable {σ : Type} {turn : Shell Bool} {log : Log} {limit more : Nat}

/-- A loop may leave a log: it takes turns, without any limit, until one says that it was the
    last. -/
inductive Loops (turn : Shell Bool) : Log → Prop
  | last {log : Log} (h : Ends turn log true) : Loops turn log
  | again {first rest : Log} (h : Ends turn first false) (hrest : Loops turn rest) :
    Loops turn (first ++ rest)

theorem turns_succ (turn : Shell Bool) (limit : Nat) :
    turns turn (limit + 1) = turn >>= fun last => if last then pure true else turns turn limit :=
  rfl

theorem ends_turns_succ_iff {result : Bool} :
    Ends (turns turn (limit + 1)) log result ↔
      (Ends turn log true ∧ result = true) ∨
      ∃ first rest, log = first ++ rest ∧ Ends turn first false ∧
        Ends (turns turn limit) rest result := by
  rw [turns_succ, ends_bind_iff]
  constructor
  · rintro ⟨first, last, rest, rfl, hfirst, hrest⟩
    cases last with
    | true =>
      obtain ⟨rfl, rfl⟩ := ends_pure_iff.1 hrest
      exact .inl ⟨(List.append_nil first).symm ▸ hfirst, rfl⟩
    | false => exact .inr ⟨first, rest, rfl, hfirst, hrest⟩
  · rintro (⟨h, rfl⟩ | ⟨first, rest, rfl, hfirst, hrest⟩)
    · exact ⟨log, true, [], (List.append_nil log).symm, h, .done _⟩
    · exact ⟨first, false, rest, rfl, hfirst, hrest⟩

/-- The logs of a loop that has ended are those that are left within some limit. -/
theorem loops_iff : Loops turn log ↔ ∃ limit, Ends (turns turn limit) log true := by
  constructor
  · intro h
    induction h with
    | last h => exact ⟨1, ends_turns_succ_iff.2 (.inl ⟨h, rfl⟩)⟩
    | again h _ ih =>
      obtain ⟨limit, hlimit⟩ := ih
      exact ⟨limit + 1, ends_turns_succ_iff.2 (.inr ⟨_, _, rfl, h, hlimit⟩)⟩
  · rintro ⟨limit, h⟩
    induction limit generalizing log with
    | zero => cases h
    | succ limit ih =>
      rcases ends_turns_succ_iff.1 h with ⟨h, -⟩ | ⟨first, rest, rfl, hfirst, hrest⟩
      · exact .last h
      · exact .again hfirst (ih hrest)

/-- If a loop has ended within a limit, a greater one makes no difference. -/
theorem turns_of_le {machine : Run → σ → Outcome × σ} {s : σ} (hle : limit ≤ more)
    (h : ((turns turn limit).exec machine s).1 = true) :
    (turns turn more).log machine s = (turns turn limit).log machine s ∧
      (turns turn more).exec machine s = (turns turn limit).exec machine s := by
  induction limit generalizing more s with
  | zero => cases h
  | succ limit ih =>
    obtain ⟨more, rfl⟩ := Nat.exists_eq_succ_of_ne_zero (Nat.ne_zero_of_lt hle)
    rw [turns_succ, exec_bind] at h
    rw [turns_succ, turns_succ, log_bind, log_bind, exec_bind, exec_bind]
    rcases hturn : turn.exec machine s with ⟨last, later⟩
    rw [hturn] at h
    cases last with
    | true => exact ⟨rfl, rfl⟩
    | false =>
      obtain ⟨hlog, hexec⟩ := ih (Nat.le_of_succ_le_succ hle) h
      exact ⟨congrArg _ hlog, hexec⟩

/-- However many turns are taken, only programs of some kind are run, if it is so in each turn. -/
theorem Only.turns {p : Run → Prop} (h : Only p turn) (limit : Nat) :
    Only p (Shell.turns turn limit) := by
  induction limit with
  | zero => exact only_pure p false
  | succ limit ih =>
    refine h.bind fun last => ?_
    cases last with
    | true => exact only_pure p true
    | false => exact ih

end VpnTray.Shell
