import VpnTray.Proofs.Tray.Operation

/-!
# Runs of the tray

A fresh tray is asked for operations, one after the other, while somebody receives its
signals. Whatever the operations are, the parts of the tray stay in step:

* the icon, the connection clock and the connection time belong to the state of the
  connection (`State.Coherent`);
* the revision counts the changes, and the signals in the queue announce each of them
  with the revision that it led to (`inStep_afterAll`).
-/

namespace VpnTray

/-- The revision that a signal announces, if any. -/
def Signal.revision? : Signal → Option UInt32
  | layoutUpdated revision _ => some revision
  | newIcon | newToolTip => none

/-- The revisions that signals announce, in their order. -/
def announcedRevisions (signals : List Signal) : List UInt32 :=
  signals.filterMap Signal.revision?

theorem announcedRevisions_append (signals more : List Signal) :
    announcedRevisions (signals ++ more) = announcedRevisions signals ++ announcedRevisions more :=
  List.filterMap_append

/-- The revisions that follow a revision, one by one. -/
def revisionsAfter (revision : UInt32) (n : Nat) : List UInt32 :=
  (List.range n).map fun k => revision + 1 + .ofNat k

theorem revisionsAfter_succ (revision : UInt32) (n : Nat) :
    revisionsAfter revision (n + 1) = (revision + 1) :: revisionsAfter (revision + 1) n := by
  rw [revisionsAfter, List.range_succ_eq_map, List.map_cons, List.map_map]
  refine List.cons_eq_cons.2 ⟨UInt32.add_zero _, List.map_congr_left fun k _ => ?_⟩
  rw [Function.comp_apply, Nat.succ_eq_one_add, UInt32.ofNat_add, ← UInt32.add_assoc]
  rfl

theorem revisionsAfter_succ_eq_append (revision : UInt32) (n : Nat) :
    revisionsAfter revision (n + 1) =
      revisionsAfter revision n ++ [revision + .ofNat n + 1] := by
  have hlast : revision + 1 + .ofNat n = revision + .ofNat n + 1 := by
    rw [UInt32.add_assoc, UInt32.add_comm 1, ← UInt32.add_assoc]
  rw [revisionsAfter, List.range_succ, List.map_append, List.map_singleton, hlast]
  rfl

@[simp] theorem length_revisionsAfter (revision : UInt32) (n : Nat) :
    (revisionsAfter revision n).length = n := by
  rw [revisionsAfter, List.length_map, List.length_range]

/-- Until the revision comes round, different numbers of changes lead to different revisions. -/
theorem add_ofNat_inj {revision : UInt32} {m n : Nat} (hm : m < UInt32.size) (hn : n < UInt32.size)
    (h : revision + .ofNat m = revision + .ofNat n) : m = n := by
  have hnat := congrArg UInt32.toNat ((UInt32.add_right_inj _).1 h)
  rwa [UInt32.toNat_ofNat_of_lt' hm, UInt32.toNat_ofNat_of_lt' hn] at hnat

/-- As long as they are few, a revision is not followed by the same one twice. -/
theorem nodup_revisionsAfter {n : Nat} (h : n < UInt32.size) (revision : UInt32) :
    (revisionsAfter revision n).Nodup := by
  rw [revisionsAfter, List.nodup_iff_pairwise_ne, List.pairwise_map]
  -- Two places in the list with the same revision would be the same number of changes.
  refine List.pairwise_lt_range.imp_of_mem fun {i j} hi hj hlt heq => ?_
  rw [List.mem_range] at hi hj
  exact Nat.ne_of_lt hlt (add_ofNat_inj (Nat.lt_trans hi h) (Nat.lt_trans hj h) heq)

namespace State

theorem not_differs_self (s : State) : ¬s.Differs s := by
  simp [Differs]

theorem announcement_self (s : State) : s.announcement s = [] :=
  (if_neg (not_not_intro rfl)).trans (if_neg s.not_differs_self)

theorem announcedRevisions_announcement {before after : State} (h : before.Differs after) :
    announcedRevisions (before.announcement after) = [after.revision] := by
  by_cases hconnected : before.connected = after.connected
  · rw [announcement_of_eq hconnected h]
    rfl
  · rw [announcement_of_ne hconnected]
    rfl

end State

namespace Tray

/-- The tray after an operation that nothing comes between. -/
def after (tray : Tray) (operation : Operation) : Tray := (operation.work.run tray).2

/-- The tray after some operations, one after the other. -/
def afterAll (tray : Tray) (operations : List Operation) : Tray := operations.foldl after tray

/-- The states before and after each of some operations. -/
def steps (tray : Tray) : List Operation → List (State × State)
  | [] => []
  | operation :: operations =>
    (tray.state, (tray.after operation).state) :: (tray.after operation).steps operations

/-- How many of some steps changed the state. -/
def changes (steps : List (State × State)) : Nat := steps.countP fun step => step.1.Differs step.2

/-- The signals that announce some steps. -/
def announcements (steps : List (State × State)) : List Signal :=
  steps.flatMap fun step => step.1.announcement step.2

theorem changes_cons_of_differs {before after : State} (h : before.Differs after)
    (steps : List (State × State)) : changes ((before, after) :: steps) = changes steps + 1 := by
  simp [changes, h]

theorem changes_cons_self (s : State) (steps : List (State × State)) :
    changes ((s, s) :: steps) = changes steps := by
  simp [changes, s.not_differs_self]

theorem announcements_cons (before after : State) (steps : List (State × State)) :
    announcements ((before, after) :: steps) = before.announcement after ++ announcements steps :=
  List.flatMap_cons

variable {tray : Tray} {operation : Operation} {operations : List Operation}

theorem next_after (h : tray.state.Differs (tray.after operation).state) :
    tray.state.Next (tray.after operation).state := by
  rcases operation.after_run_work tray with heq | ⟨after, hnext, heq⟩
  · rw [Tray.after, heq] at h
    exact absurd h tray.state.not_differs_self
  · rw [Tray.after, heq]
    exact hnext

theorem state_after (h : ¬tray.state.Differs (tray.after operation).state) :
    (tray.after operation).state = tray.state := by
  rcases operation.after_run_work tray with heq | ⟨after, hnext, heq⟩
  · rw [Tray.after, heq]
  · rw [Tray.after, heq] at h
    exact absurd hnext.differs h

theorem signals_after (tray : Tray) (operation : Operation) :
    (tray.after operation).signals =
      tray.signals.map (· ++ tray.state.announcement (tray.after operation).state) := by
  rcases operation.after_run_work tray with heq | ⟨after, hnext, heq⟩
  · rw [Tray.after, heq, State.announcement_self]
    simp
  · rw [Tray.after, heq]
    rfl

/-- What an operation makes of the state depends on the state only. -/
theorem state_after_congr {tray tray' : Tray} (h : tray.state = tray'.state)
    (operation : Operation) : (tray.after operation).state = (tray'.after operation).state := by
  have hwork : ∀ change : Change,
      (change.work.run tray).2.state = (change.work.run tray').2.state := by
    intro change
    rw [Change.state_run_work, Change.state_run_work, h]
  cases operation with
  | setNetwork network => exact hwork (.network network)
  | setAutoConnect enabled => exact hwork (.autoConnect enabled)
  | updateStatus now connected =>
    rw [Tray.after, Tray.after, work_updateStatus, Stepped.run_bind, Stepped.run_bind, run_look,
      run_look, h]
    split
    · exact h
    · exact hwork (.connection now connected)
  | refreshConnectionTime now =>
    rw [Tray.after, Tray.after, work_refreshConnectionTime, Stepped.run_bind, Stepped.run_bind,
      run_look, run_look, h]
    rcases tray'.state.connectedSince with _ | since
    · exact h
    · exact hwork (.connectionTime (now.since since).label)

/-- The signals that an operation leads to depend on the state and the queue only. -/
theorem signals_after_congr {tray tray' : Tray} (h : tray.state = tray'.state)
    (hsignals : tray.signals = tray'.signals) (operation : Operation) :
    (tray.after operation).signals = (tray'.after operation).signals := by
  rw [signals_after, signals_after, state_after_congr h, h, hsignals]

theorem afterAll_cons (tray : Tray) (operation : Operation) (operations : List Operation) :
    tray.afterAll (operation :: operations) = (tray.after operation).afterAll operations := rfl

theorem afterAll_append (tray : Tray) (earlier later : List Operation) :
    tray.afterAll (earlier ++ later) = (tray.afterAll earlier).afterAll later :=
  List.foldl_append

/-! ## What an operation keeps -/

theorem coherent_after (h : tray.state.Coherent) : (tray.after operation).state.Coherent := by
  by_cases hdiffers : tray.state.Differs (tray.after operation).state
  · exact (next_after hdiffers).coherent h
  · rwa [state_after hdiffers]

theorem coherent_afterAll (h : tray.state.Coherent) :
    (tray.afterAll operations).state.Coherent := by
  induction operations generalizing tray with
  | nil => exact h
  | cons operation operations ih => exact ih (coherent_after h)

theorem connectionTime_after_of_ne
    (h : tray.state.connected ≠ (tray.after operation).state.connected) :
    (tray.after operation).state.connectionTime = none :=
  (next_after (.inl h)).time h

/-- Only a refresh shows a connection time where none was shown. -/
theorem connectionTime_after_of_none (h : tray.state.connectionTime = none)
    (hoperation : ∀ now, operation ≠ .refreshConnectionTime now) :
    (tray.after operation).state.connectionTime = none := by
  cases operation with
  | updateStatus now connected =>
    rw [Tray.after, work_updateStatus, Stepped.run_bind]
    split
    · exact h
    · rw [Change.state_run_work]
      exact Change.connectionTime_apply_of_none h nofun
  | setNetwork network =>
    rw [Tray.after, work_setNetwork, Change.state_run_work]
    exact Change.connectionTime_apply_of_none h nofun
  | setAutoConnect enabled =>
    rw [Tray.after, work_setAutoConnect, Change.state_run_work]
    exact Change.connectionTime_apply_of_none h nofun
  | refreshConnectionTime now => exact absurd rfl (hoperation now)

theorem connectionTime_afterAll_of_none (h : tray.state.connectionTime = none)
    (hoperations : ∀ now, Operation.refreshConnectionTime now ∉ operations) :
    (tray.afterAll operations).state.connectionTime = none := by
  induction operations generalizing tray with
  | nil => exact h
  | cons operation operations ih =>
    refine ih (connectionTime_after_of_none h fun now heq => ?_) fun now hmem => ?_
    · exact hoperations now (heq ▸ List.mem_cons_self)
    · exact hoperations now (List.mem_cons_of_mem _ hmem)

/-! ## Revisions and signals -/

theorem differs_or_eq_of_mem_steps {step : State × State} (h : step ∈ tray.steps operations) :
    step.1.Differs step.2 ∨ step.2 = step.1 := by
  induction operations generalizing tray with
  | nil => exact nomatch h
  | cons operation operations ih =>
    rcases List.mem_cons.1 h with rfl | h
    · exact (Decidable.em _).imp_right state_after
    · exact ih h

/-- The signals in the queue are followed by those that announce the changes. -/
theorem signals_afterAll (tray : Tray) (operations : List Operation) :
    (tray.afterAll operations).signals =
      tray.signals.map (· ++ announcements (tray.steps operations)) := by
  induction operations generalizing tray with
  | nil => simp [afterAll, steps, announcements]
  | cons operation operations ih =>
    rw [afterAll_cons, ih, signals_after, steps, announcements_cons, Option.map_map]
    simp [Function.comp_def]

/-- The revision goes up by the number of changes. -/
theorem revision_afterAll (tray : Tray) (operations : List Operation) :
    (tray.afterAll operations).state.revision =
      tray.state.revision + .ofNat (changes (tray.steps operations)) := by
  induction operations generalizing tray with
  | nil => simp [afterAll, steps, changes]
  | cons operation operations ih =>
    rw [afterAll_cons, ih, steps]
    by_cases hdiffers : tray.state.Differs (tray.after operation).state
    · rw [(next_after hdiffers).revision, changes_cons_of_differs hdiffers, UInt32.add_assoc,
        Nat.add_comm, UInt32.ofNat_add]
      rfl
    · rw [state_after hdiffers, changes_cons_self]

/-- The changes are announced with the revisions that follow the first one, one by one. -/
theorem announcedRevisions_steps (tray : Tray) (operations : List Operation) :
    announcedRevisions (announcements (tray.steps operations)) =
      revisionsAfter tray.state.revision (changes (tray.steps operations)) := by
  induction operations generalizing tray with
  | nil => rfl
  | cons operation operations ih =>
    rw [steps, announcements_cons, announcedRevisions_append, ih]
    by_cases hdiffers : tray.state.Differs (tray.after operation).state
    · rw [State.announcedRevisions_announcement hdiffers, changes_cons_of_differs hdiffers,
        revisionsAfter_succ, (next_after hdiffers).revision]
      rfl
    · rw [state_after hdiffers, State.announcement_self, changes_cons_self]
      rfl

/-! ## A fresh tray -/

/-- What is true of a fresh tray after some operations, while its signals are received. -/
structure InStep (operations : List Operation) : Prop where
  /-- The icon, the clock and the connection time belong to the state of the connection. -/
  coherent : (({} : Tray).afterAll operations).state.Coherent
  /-- From a change of the connection up to the next refresh no connection time is shown. -/
  time : ∀ earlier operation later, operations = earlier ++ operation :: later →
    (({} : Tray).afterAll earlier).state.connected ≠
      ((({} : Tray).afterAll earlier).after operation).state.connected →
    (∀ now, Operation.refreshConnectionTime now ∉ later) →
    (({} : Tray).afterAll operations).state.connectionTime = none
  /-- A step that shows nothing new leaves the state as it is. -/
  steps : ∀ step ∈ ({} : Tray).steps operations, step.1.Differs step.2 ∨ step.2 = step.1
  /-- The revision counts the changes. -/
  revision : (({} : Tray).afterAll operations).state.revision =
    1 + .ofNat (changes (({} : Tray).steps operations))
  /-- The queue holds what announces the changes, and nothing else. -/
  signals : (({} : Tray).afterAll operations).signals =
    some (announcements (({} : Tray).steps operations))
  /-- The announced revisions go up one by one. -/
  revisions : announcedRevisions (announcements (({} : Tray).steps operations)) =
    revisionsAfter 1 (changes (({} : Tray).steps operations))

/-- A fresh tray stays in step whatever it is asked for. -/
theorem inStep_afterAll (operations : List Operation) : InStep operations where
  coherent := coherent_afterAll State.coherent_default
  time := by
    rintro earlier operation later rfl hconnected hlater
    rw [afterAll_append, afterAll_cons]
    -- The change of the connection takes the time away, and no later operation brings one back.
    exact connectionTime_afterAll_of_none (connectionTime_after_of_ne hconnected) hlater
  steps _ hstep := differs_or_eq_of_mem_steps hstep
  revision := revision_afterAll {} operations
  signals := signals_afterAll {} operations
  revisions := announcedRevisions_steps {} operations

end Tray

end VpnTray
