import VpnTray.Tray

/-!
# The commands of the menu

What the desktop does with the menu hands out commands, and does nothing else to the tray:

* `run_event`, `run_eventGroup`: an event hands out the command that it asks for, and several
  events do so one after the other;
* `run_aboutToShow`, `run_aboutToShowGroup`: the opening of the whole menu is a command.
-/

namespace VpnTray.Tray

/-- The tray with more commands handed out. -/
def handOut (tray : Tray) (commands : List Command) : Tray :=
  { tray with commands := tray.commands ++ commands }

@[simp] theorem handOut_nil (tray : Tray) : tray.handOut [] = tray := by
  simp [handOut]

@[simp] theorem handOut_handOut (tray : Tray) (commands more : List Command) :
    (tray.handOut commands).handOut more = tray.handOut (commands ++ more) := by
  simp [handOut]

@[simp] theorem state_handOut (tray : Tray) (commands : List Command) :
    (tray.handOut commands).state = tray.state := rfl

@[simp] theorem signals_handOut (tray : Tray) (commands : List Command) :
    (tray.handOut commands).signals = tray.signals := rfl

@[simp] theorem commands_handOut (tray : Tray) (commands : List Command) :
    (tray.handOut commands).commands = tray.commands ++ commands := rfl

theorem run_event (id : Int32) (kind : String) (tray : Tray) :
    (event id kind).run tray =
      (Menu.command? tray.state id kind,
        tray.handOut (Menu.command? tray.state id kind).toList) := by
  rw [event, Stepped.run_bind, run_look]
  cases Menu.command? tray.state id kind with
  | none => rw [Option.toList_none, handOut_nil]; rfl
  | some command => rfl

/-- The commands that some events ask for, in their order. -/
def commandsOf (s : State) (events : List (Int32 × String)) : List Command :=
  events.filterMap fun event => Menu.command? s event.1 event.2

theorem commandsOf_cons (s : State) (id : Int32) (kind : String)
    (events : List (Int32 × String)) :
    commandsOf s ((id, kind) :: events) =
      (Menu.command? s id kind).toList ++ commandsOf s events := by
  rw [commandsOf, List.filterMap_cons]
  cases Menu.command? s id kind <;> rfl

theorem run_forM_event (events : List (Int32 × String)) (tray : Tray) :
    (events.forM fun event => discard (Tray.event event.1 event.2)).run tray =
      ((), tray.handOut (commandsOf tray.state events)) := by
  induction events generalizing tray with
  | nil => rw [commandsOf, List.filterMap_nil, handOut_nil]; rfl
  | cons event events ih =>
    obtain ⟨id, kind⟩ := event
    -- The events that follow find the same state, as a command that was handed out is carried
    -- out at some later time.
    have hfirst : (discard (Tray.event id kind)).run tray =
        ((), tray.handOut (Menu.command? tray.state id kind).toList) := by
      rw [Stepped.run_discard, run_event]
    rw [List.forM, Stepped.run_bind, hfirst, ih, state_handOut, handOut_handOut,
      ← commandsOf_cons]

theorem run_eventGroup (events : List (Int32 × String)) (tray : Tray) :
    (eventGroup events).run tray = ([], tray.handOut (commandsOf tray.state events)) := by
  have hevents := run_forM_event events tray
  rw [eventGroup, Stepped.run_bind]
  exact congrArg (fun after => ([], after.2)) hevents

/-- The command by which the tray is told that some menus are going to be shown. -/
def opening (ids : List Int32) : List Command := if Menu.rootId ∈ ids then [.menuOpening] else []

theorem run_aboutToShow (id : Int32) (tray : Tray) :
    (aboutToShow id).run tray = (true, tray.handOut (opening [id])) := by
  rw [aboutToShow, opening]
  by_cases h : id = Menu.rootId
  · rw [if_pos h, if_pos (List.mem_singleton.2 h.symm)]
    rfl
  · rw [if_neg h, if_neg fun hmem => h (List.mem_singleton.1 hmem).symm, handOut_nil]
    rfl

theorem run_aboutToShowGroup (ids : List Int32) (tray : Tray) :
    (aboutToShowGroup ids).run tray = ((ids, []), tray.handOut (opening ids)) := by
  rw [aboutToShowGroup, opening]
  split
  · rfl
  · rw [handOut_nil]
    rfl

end VpnTray.Tray
