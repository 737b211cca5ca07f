import VpnTray.Proofs.Tray.Host
import VpnTray.Proofs.Tray.Run

/-!
# The tray among its callers and the desktop

Any number of threads call the tray at the same time, and the steps of their calls come
in any order. The desktop takes the signals of the tray one by one, at any moment, and
reads again what a signal is about. A *scene* is all of this at one moment.

* `Scene.Step`: a call begins, a call goes on by one step, or a signal is taken;
* `Scene.Pending`: the signals that are in the queue, or that calls still have to send;
* `Scene.move_of_step`: what a step of a scene can do, in terms of the pending signals;
* `Scene.Reaches.keeps`: what every move keeps holds of every scene that is reached.
-/

namespace VpnTray

/-- The tray, its callers and the desktop at one moment, with what has happened so far. -/
structure Scene where
  tray : Tray
  /-- What is left to do of each call. -/
  calls : List (Stepped Tray Unit) := []
  /-- The copies of the desktop. -/
  copies : Bus.Part → Except Bus.Fault Bus.Reply
  /-- The signals that the desktop has taken. -/
  taken : List Signal := []
  /-- The revisions that changes to the state have led to. -/
  committed : List UInt32 := []

namespace Scene

/-- What the desktop reads of each part. -/
def fresh (tray : Tray) : Bus.Part → Except Bus.Fault Bus.Reply :=
  fun part => Bus.answer part.call tray

/-- A scene begins with a tray in some state, before anything is asked of it, and with
    fresh copies. -/
def start (state : State) : Scene where
  tray := { state }
  copies := fresh { state }

/-- The revision that a step has led to, if it changed the state. -/
def commits (before after : State) : List UInt32 :=
  if before.Differs after then [after.revision] else []

/-- The scene after a step of a call. -/
def afterCall (scene : Scene) (tray : Tray) (calls : List (Stepped Tray Unit)) : Scene :=
  { scene with tray, calls, committed := scene.committed ++ commits scene.tray.state tray.state }

/-- The copies after a signal has been taken: the part that it is about is read again. -/
def reread (copies : Bus.Part → Except Bus.Fault Bus.Reply) (signal : Signal) (tray : Tray) :
    Bus.Part → Except Bus.Fault Bus.Reply :=
  fun part => if signal.part = part then fresh tray part else copies part

/-- One step of a scene. -/
inductive Step : Scene → Scene → Prop
  | begin (scene : Scene) (operation : Tray.Operation) :
    Step scene { scene with calls := operation.work :: scene.calls }
  | call (scene : Scene) {earlier later : List (Stepped Tray Unit)} {work rest : Stepped Tray Unit}
    {tray : Tray} (hcalls : scene.calls = earlier ++ work :: later)
    (hstep : Stepped.Step (work, scene.tray) (rest, tray)) :
    Step scene (scene.afterCall tray (earlier ++ rest :: later))
  | take (scene : Scene) {signal : Signal} {signals : List Signal}
    (hsignals : scene.tray.signals = some (signal :: signals)) :
    Step scene { scene with
      tray := { scene.tray with signals := some signals }
      copies := reread scene.copies signal scene.tray
      taken := scene.taken ++ [signal] }

/-- Some steps lead from one scene to another. -/
inductive Reaches (first : Scene) : Scene → Prop
  | refl : Reaches first first
  | step {scene next : Scene} : Reaches first scene → Step scene next → Reaches first next

/-- No call is in progress. -/
def Quiet (scene : Scene) : Prop := ∀ work ∈ scene.calls, work = pure ()

/-! ## Pending signals -/

/-- What is left to do of the calls of a scene, and the signals that the desktop has still
    to take: those in the queue, and those that calls still have to send. -/
structure Pending (scene : Scene) (phases : List Tray.Phase) (pending : List Signal) : Prop where
  calls : scene.calls = phases.map Tray.Phase.work
  signals : ∃ queue, scene.tray.signals = some queue ∧
    pending = queue ++ phases.flatMap Tray.Phase.owed

/-- What a step of a scene can do. Pending signals are told apart up to their order only, as
    the announcements of different calls can overtake each other. -/
inductive Move (scene next : Scene) (pending pending' : List Signal) : Prop
  | idle (htray : next.tray.state = scene.tray.state) (hcopies : next.copies = scene.copies)
    (htaken : next.taken = scene.taken) (hcommitted : next.committed = scene.committed)
    (hpending : pending'.Perm pending)
  | change (hafter : scene.tray.state.Next next.tray.state) (hcopies : next.copies = scene.copies)
    (htaken : next.taken = scene.taken)
    (hcommitted : next.committed = scene.committed ++ [next.tray.state.revision])
    (hpending : pending'.Perm (pending ++ scene.tray.state.announcement next.tray.state))
  | take (signal : Signal) (htray : next.tray.state = scene.tray.state)
    (hcopies : next.copies = reread scene.copies signal scene.tray)
    (htaken : next.taken = scene.taken ++ [signal]) (hcommitted : next.committed = scene.committed)
    (hpending : pending.Perm (signal :: pending'))

variable {scene next : Scene} {phases : List Tray.Phase} {pending : List Signal}

theorem pending_start (state : State) : Pending (start state) [] [] :=
  ⟨rfl, [], rfl, rfl⟩

theorem commits_self (s : State) : commits s s = [] :=
  if_neg s.not_differs_self

theorem commits_of_next {before after : State} (h : before.Next after) :
    commits before after = [after.revision] :=
  if_pos h.differs

theorem owed_insert (earlier later : List Tray.Phase) (phase : Tray.Phase) :
    (earlier ++ phase :: later).flatMap Tray.Phase.owed =
      earlier.flatMap Tray.Phase.owed ++ (phase.owed ++ later.flatMap Tray.Phase.owed) := by
  rw [List.flatMap_append, List.flatMap_cons]

theorem owed_of_owed_eq_nil {phase : Tray.Phase} (earlier later : List Tray.Phase)
    (h : phase.owed = []) :
    (earlier ++ phase :: later).flatMap Tray.Phase.owed =
      earlier.flatMap Tray.Phase.owed ++ later.flatMap Tray.Phase.owed := by
  rw [owed_insert, h, List.nil_append]

/-- A step of a call, in terms of its phases. -/
theorem move_of_advance {earlier later : List Tray.Phase} {phase phase' : Tray.Phase}
    {queue : List Signal} {tray : Tray} (hqueue : scene.tray.signals = some queue)
    (hadvance : phase.Advance scene.tray phase' tray) (calls : List (Stepped Tray Unit)) :
    ∃ queue', tray.signals = some queue' ∧
      Move scene (scene.afterCall tray calls)
        (queue ++ (earlier ++ phase :: later).flatMap Tray.Phase.owed)
        (queue' ++ (earlier ++ phase' :: later).flatMap Tray.Phase.owed) := by
  cases hadvance with
  | look howed howed' =>
    refine ⟨queue, hqueue, .idle rfl rfl rfl ?_ ?_⟩
    · rw [afterCall, commits_self, List.append_nil]
    · rw [owed_of_owed_eq_nil _ _ howed, owed_of_owed_eq_nil _ _ howed']
  | change howed hafter =>
    refine ⟨queue, hqueue, .change hafter rfl rfl ?_ ?_⟩
    · rw [afterCall, Tray.state_withState, commits_of_next hafter]
    · -- What the call owes now stands among what other calls still have to send.
      rw [owed_of_owed_eq_nil _ _ howed, owed_insert, List.append_assoc, List.append_assoc]
      exact .append_left queue (.append_left _ List.perm_append_comm)
  | send signal signals =>
    refine ⟨queue ++ [signal], congrArg (Option.map (· ++ [signal])) hqueue,
      .idle rfl rfl rfl ?_ ?_⟩
    · rw [afterCall, Tray.state_queue, commits_self, List.append_nil]
    · -- The signal goes to the end of the queue, before what earlier calls still have to send,
      -- so that it overtakes those.
      rw [owed_insert, owed_insert, Tray.Phase.owed, Tray.Phase.owed, List.cons_append,
        List.append_assoc, List.singleton_append]
      exact .append_left queue List.perm_middle.symm

/-- What a step of a scene can do. -/
theorem move_of_step (hpending : Pending scene phases pending) (h : Step scene next) :
    ∃ phases' pending', Pending next phases' pending' ∧ Move scene next pending pending' := by
  obtain ⟨hphases, queue, hqueue, rfl⟩ := hpending
  cases h with
  | begin operation =>
    refine ⟨.asked operation :: phases, _, ⟨?_, queue, hqueue, rfl⟩,
      .idle rfl rfl rfl rfl (.refl _)⟩
    rw [List.map_cons, ← hphases]
    rfl
  | @call earlier later work rest tray hcalls hstep =>
    rw [hphases] at hcalls
    -- The call that goes on is the work of one phase, and the phases around it stay.
    obtain ⟨earlier, _, rfl, rfl, htail⟩ := List.map_eq_append_iff.1 hcalls
    obtain ⟨phase, later, rfl, rfl, rfl⟩ := List.map_eq_cons_iff.1 htail
    obtain ⟨phase', rfl, hadvance⟩ := Tray.Phase.advance_of_step hstep
    obtain ⟨queue', hqueue', hmove⟩ := move_of_advance hqueue hadvance _
    refine ⟨earlier ++ phase' :: later, _, ⟨?_, queue', hqueue', rfl⟩, hmove⟩
    rw [List.map_append, List.map_cons]
    rfl
  | @take signal signals hsignals =>
    rw [hqueue] at hsignals
    obtain rfl := Option.some.inj hsignals
    exact ⟨phases, _, ⟨hphases, signals, rfl, rfl⟩, .take signal rfl rfl rfl rfl (.refl _)⟩

/-- What holds at first, and is kept by every move, holds of every scene that is reached. -/
theorem Reaches.keeps {first : Scene} {P : Scene → List Signal → Prop}
    (h : Reaches first scene) (hpending : Pending first phases pending) (hfirst : P first pending)
    (hmove : ∀ scene next pending pending', P scene pending → Move scene next pending pending' →
      P next pending') :
    ∃ phases' pending', Pending scene phases' pending' ∧ P scene pending' := by
  induction h with
  | refl => exact ⟨phases, pending, hpending, hfirst⟩
  | step _ hstep ih =>
    obtain ⟨phases', pending', hpending', hkept⟩ := ih
    obtain ⟨phases'', pending'', hnext, hmoved⟩ := move_of_step hpending' hstep
    exact ⟨phases'', pending'', hnext, hmove _ _ _ _ hkept hmoved⟩

end Scene

end VpnTray
