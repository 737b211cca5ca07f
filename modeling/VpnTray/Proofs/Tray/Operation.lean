import VpnTray.Tray

/-!
# The operations of the tray

The state of the tray changes by four operations, which other parts of the program ask
for. Each of them makes at most one change to the state, in one step under the lock.
A change leads to the next revision, and the operation then goes on to announce it by
signals, one by one.

* `Operation`, `Operation.work`: what is asked of the tray, and what is done for it;
* `State.Next`: what is true of any two states with one change between them;
* `Change.apply_none`, `Change.apply_some`: a change finds nothing to do and leaves the
  state alone, or leads to a next state, which is announced by `State.announcement`;
* `Phase.Advance`, `Phase.advance_of_step`: what a single step of an operation can do.
-/

namespace VpnTray

namespace State

/-- Two states differ in something that is shown in the menu. -/
def Differs (before after : State) : Prop :=
  before.connected ≠ after.connected ∨ before.network ≠ after.network ∨
    before.autoConnect ≠ after.autoConnect ∨ before.connectionTime ≠ after.connectionTime

instance (before after : State) : Decidable (before.Differs after) :=
  inferInstanceAs (Decidable (_ ∨ _))

/-- The signals that tell the desktop how a state differs from the one before it. -/
def announcement (before after : State) : List Signal :=
  if before.connected ≠ after.connected then
    [.newIcon, .newToolTip, .layoutUpdated after.revision Menu.rootId]
  else if before.Differs after then [.layoutUpdated after.revision Menu.rootId]
  else []

theorem announcement_of_ne {before after : State} (h : before.connected ≠ after.connected) :
    before.announcement after =
      [.newIcon, .newToolTip, .layoutUpdated after.revision Menu.rootId] :=
  if_pos h

theorem announcement_of_eq {before after : State} (h : before.connected = after.connected)
    (hdiffers : before.Differs after) :
    before.announcement after = [.layoutUpdated after.revision Menu.rootId] :=
  (if_neg (not_not_intro h)).trans (if_pos hdiffers)

/-- The icon and the connection clock belong to the state of the connection. -/
structure Coherent (s : State) : Prop where
  icon : s.icon = .render s.connected
  clock : s.connectedSince.isSome = s.connected
  time : s.connectionTime.isSome → s.connected

/-- What is true of two states with one change between them. -/
structure Next (before after : State) : Prop where
  revision : after.revision = before.revision + 1
  differs : before.Differs after
  icon : before.connected = after.connected → before.icon = after.icon
  time : before.connected ≠ after.connected → after.connectionTime = none
  coherent : before.Coherent → after.Coherent

theorem coherent_default : ({} : State).Coherent where
  icon := rfl
  clock := rfl
  time := nofun

end State

namespace Tray

/-- What other parts of the program ask of the tray. -/
inductive Operation
  | updateStatus (now : Instant) (connected : Bool)
  | setNetwork (network : Option String)
  | setAutoConnect (enabled : Bool)
  | refreshConnectionTime (now : Instant)

/-- What is done for an operation. -/
def Operation.work : Operation → Stepped Tray Unit
  | updateStatus now connected => Tray.updateStatus now connected
  | setNetwork network => Tray.setNetwork network
  | setAutoConnect enabled => Tray.setAutoConnect enabled
  | refreshConnectionTime now => Tray.refreshConnectionTime now

/-! ## Changes -/

/-- A change to the state, which is made in one step. -/
inductive Change
  | connection (now : Instant) (connected : Bool)
  | network (network : Option String)
  | autoConnect (enabled : Bool)
  | connectionTime (elapsed : String)

namespace Change

/-- Makes a change, and gives the new revision if there was something to do. -/
def apply : Change → State → Option UInt32 × State
  | connection now connected => State.commit now connected (.render connected)
  | network name => State.setNetwork name
  | autoConnect enabled => State.setAutoConnect enabled
  | connectionTime elapsed => State.setConnectionTime elapsed

/-- There is nothing to do for a change. -/
def Idle : Change → State → Prop
  | connection _ connected, s => s.connected = connected
  | network name, s => s.network = name
  | autoConnect enabled, s => s.autoConnect = enabled
  | connectionTime elapsed, s => !s.connected || s.connectionTime = some elapsed

instance (change : Change) (s : State) : Decidable (change.Idle s) := by
  cases change <;> unfold Idle <;> infer_instance

/-- What a change makes of a state, apart from its revision. -/
def result : Change → State → State
  | connection now connected, s =>
    { s with
      connected
      icon := .render connected
      connectedSince := if connected then some now else none
      connectionTime := none }
  | network name, s => { s with network := name }
  | autoConnect enabled, s => { s with autoConnect := enabled }
  | connectionTime elapsed, s => { s with connectionTime := some elapsed }

@[simp] theorem revision_result (change : Change) (s : State) :
    (change.result s).revision = s.revision := by
  cases change <;> rfl

theorem apply_eq (change : Change) (s : State) :
    change.apply s = if change.Idle s then (none, s) else (change.result s).bump := by
  cases change <;> rfl

/-- The signals that are sent for a change that led to a revision. -/
def signals (revision : UInt32) : Change → List Signal
  | connection _ _ => [.newIcon, .newToolTip, .layoutUpdated revision Menu.rootId]
  | _ => [.layoutUpdated revision Menu.rootId]

variable {change : Change} {before after : State} {revision : UInt32}

theorem apply_none (h : change.apply before = (none, after)) : after = before := by
  rw [apply_eq] at h
  split at h
  · exact (Prod.mk.inj h).2.symm
  · exact nomatch (Prod.mk.inj h).1

theorem next_bump_result (h : ¬change.Idle before) :
    before.Next (change.result before).bump.2 := by
  cases change with
  | connection now connected =>
    refine ⟨rfl, .inl h, fun hsame => absurd hsame h, fun _ => rfl, fun _ => ⟨rfl, ?_, nofun⟩⟩
    cases connected <;> rfl
  | network name =>
    exact ⟨rfl, .inr (.inl h), fun _ => rfl, fun hne => absurd rfl hne, fun hco =>
      ⟨hco.icon, hco.clock, hco.time⟩⟩
  | autoConnect enabled =>
    exact ⟨rfl, .inr (.inr (.inl h)), fun _ => rfl, fun hne => absurd rfl hne, fun hco =>
      ⟨hco.icon, hco.clock, hco.time⟩⟩
  | connectionTime elapsed =>
    simp only [Idle, Bool.or_eq_true, Bool.not_eq_true', decide_eq_true_eq, not_or,
      Bool.not_eq_false] at h
    -- There is something to do only while there is a connection, to which the new time belongs.
    exact ⟨rfl, .inr (.inr (.inr h.2)), fun _ => rfl, fun hne => absurd rfl hne, fun hco =>
      ⟨hco.icon, hco.clock, fun _ => h.1⟩⟩

theorem signals_of_connected_eq (h : before.connected = (change.result before).connected)
    (hidle : ¬change.Idle before) :
    change.signals revision = [.layoutUpdated revision Menu.rootId] := by
  cases change with
  | connection now connected => exact absurd h hidle
  | network name => rfl
  | autoConnect enabled => rfl
  | connectionTime elapsed => rfl

theorem signals_of_connected_ne (h : before.connected ≠ (change.result before).connected) :
    change.signals revision = [.newIcon, .newToolTip, .layoutUpdated revision Menu.rootId] := by
  cases change with
  | connection now connected => rfl
  | network name => exact absurd rfl h
  | autoConnect enabled => exact absurd rfl h
  | connectionTime elapsed => exact absurd rfl h

theorem apply_some (h : change.apply before = (some revision, after)) :
    before.Next after ∧ change.signals revision = before.announcement after := by
  rw [apply_eq] at h
  split at h
  · exact nomatch (Prod.mk.inj h).1
  · rename_i hidle
    have hafter : (change.result before).bump.2 = after := congrArg Prod.snd h
    have hnext : before.Next after := hafter ▸ next_bump_result hidle
    have hrevision : after.revision = revision := by
      rw [← hafter]
      exact Option.some.inj (congrArg Prod.fst h)
    have hresult : (change.result before).connected = after.connected := by
      rw [← hafter]
      rfl
    refine ⟨hnext, ?_⟩
    -- The signals are chosen by the kind of the change, the announcement by what it did: a
    -- change of the connection that is not idle is one that connects or disconnects.
    by_cases hconnected : before.connected = after.connected
    · rw [State.announcement_of_eq hconnected hnext.differs, hrevision]
      exact signals_of_connected_eq (hconnected.trans hresult.symm) hidle
    · rw [State.announcement_of_ne hconnected, hrevision]
      exact signals_of_connected_ne (hresult ▸ hconnected)

/-- Only a new connection time shows one where none was shown. -/
theorem connectionTime_apply_of_none (h : before.connectionTime = none)
    (hchange : ∀ elapsed, change ≠ .connectionTime elapsed) :
    (change.apply before).2.connectionTime = none := by
  rw [apply_eq]
  split
  · exact h
  · cases change with
    | connection now connected => rfl
    | network name => exact h
    | autoConnect enabled => exact h
    | connectionTime elapsed => exact absurd rfl (hchange elapsed)

end Change

/-! ## The work of a change -/

/-- The tray with more signals in its queue. -/
def queue (tray : Tray) (signals : List Signal) : Tray :=
  { tray with signals := tray.signals.map (· ++ signals) }

@[simp] theorem queue_nil (tray : Tray) : tray.queue [] = tray := by
  simp [queue]

@[simp] theorem queue_queue (tray : Tray) (signals more : List Signal) :
    (tray.queue signals).queue more = tray.queue (signals ++ more) := by
  simp [queue, Function.comp_def]

@[simp] theorem state_queue (tray : Tray) (signals : List Signal) :
    (tray.queue signals).state = tray.state := rfl

/-- The tray in another state. -/
def withState (tray : Tray) (state : State) : Tray := { tray with state }

@[simp] theorem withState_state (tray : Tray) : tray.withState tray.state = tray := rfl

@[simp] theorem state_withState (tray : Tray) (state : State) :
    (tray.withState state).state = state := rfl

@[simp] theorem signals_withState (tray : Tray) (state : State) :
    (tray.withState state).signals = tray.signals := rfl

/-- Sends signals, one by one. -/
def sendAll : List Signal → Stepped Tray Unit
  | [] => pure ()
  | signal :: signals => do
    send signal
    sendAll signals

theorem run_sendAll (signals : List Signal) (tray : Tray) :
    (sendAll signals).run tray = ((), tray.queue signals) := by
  induction signals generalizing tray with
  | nil => rw [sendAll, Stepped.run_pure, queue_nil]
  | cons signal signals ih =>
    have hsend : (send signal).run tray = ((), tray.queue [signal]) := rfl
    rw [sendAll, Stepped.run_bind, hsend, ih, queue_queue, List.singleton_append]

/-- Makes a change and announces it. -/
def Change.work (change : Change) : Stepped Tray Unit := do
  let some revision ← Tray.change change.apply | return
  sendAll (change.signals revision)

/-- The step that makes a change either finds nothing to do, and the work is done, or leads
    to a next state, and leaves that to be announced. -/
theorem Change.step_work {change : Change} {tray tray' : Tray} {rest : Stepped Tray Unit}
    (h : Stepped.Step (change.work, tray) (rest, tray')) :
    (rest = sendAll [] ∧ tray' = tray) ∨
      ∃ after, tray.state.Next after ∧ rest = sendAll (tray.state.announcement after) ∧
        tray' = tray.withState after := by
  have hnext := Stepped.step_act_bind.1 h
  rcases happly : change.apply tray.state with ⟨_ | revision, after⟩
  · rw [happly, apply_none happly] at hnext
    obtain ⟨hrest, htray⟩ := Prod.mk.inj hnext
    exact .inl ⟨hrest, htray⟩
  · rw [happly] at hnext
    obtain ⟨hrest, htray⟩ := Prod.mk.inj hnext
    obtain ⟨hafter, hsignals⟩ := apply_some happly
    exact .inr ⟨after, hafter, hsignals ▸ hrest, htray⟩

/-- A tray after an operation is what it was, or is in a next state that has been announced. -/
def After (tray tray' : Tray) : Prop :=
  tray' = tray ∨ ∃ after, tray.state.Next after ∧
    tray' = (tray.withState after).queue (tray.state.announcement after)

theorem Change.after_run_work (change : Change) (tray : Tray) :
    After tray (change.work.run tray).2 := by
  have hstep : Stepped.Step (change.work, tray) _ := Stepped.step_act_bind.2 rfl
  rw [hstep.run_eq]
  rcases step_work hstep with ⟨hrest, htray⟩ | ⟨after, hafter, hrest, htray⟩
  · refine .inl ?_
    rw [hrest, htray, run_sendAll, queue_nil]
  · refine .inr ⟨after, hafter, ?_⟩
    rw [hrest, htray, run_sendAll]

theorem Change.state_run_work (change : Change) (tray : Tray) :
    (change.work.run tray).2.state = (change.apply tray.state).2 := by
  have hstep : Stepped.Step (change.work, tray) _ := Stepped.step_act_bind.2 rfl
  rw [hstep.run_eq]
  rcases change.apply tray.state with ⟨_ | revision, after⟩
  · rfl
  · rw [run_sendAll]
    rfl

/-! ## The work of an operation -/

theorem work_setNetwork (network : Option String) :
    (Operation.setNetwork network).work = (Change.network network).work := rfl

theorem work_setAutoConnect (enabled : Bool) :
    (Operation.setAutoConnect enabled).work = (Change.autoConnect enabled).work := rfl

theorem work_updateStatus (now : Instant) (connected : Bool) :
    (Operation.updateStatus now connected).work = (look (·.connected) >>= fun known =>
      if known = connected then pure () else (Change.connection now connected).work) := rfl

theorem work_refreshConnectionTime (now : Instant) :
    (Operation.refreshConnectionTime now).work = (look (·.connectedSince) >>= fun
      | none => pure ()
      | some since => (Change.connectionTime (now.since since).label).work) := by
  refine congrArg (look _ >>= ·) (funext fun since? => ?_)
  cases since? <;> rfl

theorem Operation.after_run_work (operation : Operation) (tray : Tray) :
    After tray (operation.work.run tray).2 := by
  cases operation with
  | setNetwork network => exact (Change.network network).after_run_work tray
  | setAutoConnect enabled => exact (Change.autoConnect enabled).after_run_work tray
  | updateStatus now connected =>
    rw [work_updateStatus, Stepped.run_bind]
    -- The first look only saves work, as the change finds out by itself if it is idle.
    split
    · exact .inl rfl
    · exact (Change.connection now connected).after_run_work tray
  | refreshConnectionTime now =>
    rw [work_refreshConnectionTime, Stepped.run_bind]
    split
    · exact .inl rfl
    · exact Change.after_run_work _ tray

/-! ## Steps -/

/-- What is left to do of an operation. -/
inductive Phase
  | asked (operation : Operation)
  | changing (change : Change)
  | announcing (signals : List Signal)

namespace Phase

/-- The work that is left to do. -/
def work : Phase → Stepped Tray Unit
  | asked operation => operation.work
  | changing change => change.work
  | announcing signals => sendAll signals

/-- The signals that are still to be sent for a change that has been made. -/
def owed : Phase → List Signal
  | announcing signals => signals
  | asked _ | changing _ => []

/-- What a step of an operation can do: find nothing to do, or look what there is to do;
    make a change, and owe its announcement; or send one of the signals that are owed. -/
inductive Advance : Phase → Tray → Phase → Tray → Prop
  | look {phase next : Phase} {tray : Tray} (h : phase.owed = []) (hnext : next.owed = []) :
    Advance phase tray next tray
  | change {phase : Phase} {tray : Tray} {after : State} (h : phase.owed = [])
    (hafter : tray.state.Next after) :
    Advance phase tray (announcing (tray.state.announcement after)) (tray.withState after)
  | send (signal : Signal) (signals : List Signal) (tray : Tray) :
    Advance (announcing (signal :: signals)) tray (announcing signals) (tray.queue [signal])

theorem advance_of_change {phase : Phase} {change : Change} {tray tray' : Tray}
    {rest : Stepped Tray Unit} (hphase : phase.owed = [])
    (h : Stepped.Step (change.work, tray) (rest, tray')) :
    ∃ next : Phase, rest = next.work ∧ Advance phase tray next tray' := by
  rcases Change.step_work h with ⟨rfl, rfl⟩ | ⟨after, hafter, rfl, rfl⟩
  · exact ⟨announcing [], rfl, .look hphase rfl⟩
  · exact ⟨announcing _, rfl, .change hphase hafter⟩

theorem advance_of_step {phase : Phase} {tray tray' : Tray} {rest : Stepped Tray Unit}
    (h : Stepped.Step (phase.work, tray) (rest, tray')) :
    ∃ next : Phase, rest = next.work ∧ Advance phase tray next tray' := by
  cases phase with
  | changing change => exact advance_of_change rfl h
  | announcing signals =>
    cases signals with
    | nil => exact absurd h Stepped.not_step_pure
    | cons signal signals =>
      obtain ⟨rfl, rfl⟩ := Prod.mk.inj (Stepped.step_modify_bind.1 h)
      exact ⟨announcing signals, rfl, .send signal signals tray⟩
  | asked operation =>
    cases operation with
    | setNetwork network =>
      rw [work, work_setNetwork] at h
      exact advance_of_change rfl h
    | setAutoConnect enabled =>
      rw [work, work_setAutoConnect] at h
      exact advance_of_change rfl h
    | updateStatus now connected =>
      -- What has been seen may be out of date when the change is made. Nothing is remembered of
      -- it but that a change is to be tried.
      rw [work, work_updateStatus] at h
      obtain ⟨rfl, rfl⟩ := Prod.mk.inj (Stepped.step_get_bind.1 h)
      split
      · exact ⟨announcing [], rfl, .look rfl rfl⟩
      · exact ⟨changing _, rfl, .look rfl rfl⟩
    | refreshConnectionTime now =>
      rw [work, work_refreshConnectionTime] at h
      obtain ⟨rfl, rfl⟩ := Prod.mk.inj (Stepped.step_get_bind.1 h)
      split
      · exact ⟨announcing [], rfl, .look rfl rfl⟩
      · exact ⟨changing _, rfl, .look rfl rfl⟩

end Phase

end Tray

end VpnTray
