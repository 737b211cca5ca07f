import VpnTray.Menu.Layout
import VpnTray.Stepped

/-!
# The tray

The tray keeps the state, tells the desktop what has changed and hands out the
commands of the menu. Several threads may use it at once. Each of its operations
goes through steps: a look at the state or a change to it under the lock, and the
signals and commands that are sent, one by one.

* `Tray.updateStatus`, `Tray.setNetwork`, `Tray.setAutoConnect`,
  `Tray.refreshConnectionTime`: all that ever changes the state;
* `Tray.event`, `Tray.aboutToShow`: what the desktop does with the menu.

Signals are queued for the bus. Once nobody receives them any more they are lost.
-/

namespace VpnTray

/-- A change that the desktop is told about. -/
inductive Signal
  | newIcon
  | newToolTip
  | layoutUpdated (revision : UInt32) (parent : Int32)
deriving DecidableEq, Repr

/-- The tray: its state, the signals that are queued, unless nobody receives them, and
    the commands that have been handed out. -/
structure Tray where
  state : State := {}
  signals : Option (List Signal) := some []
  commands : List Command := []

namespace Tray

/-- A look at the state. -/
def look {α : Type} (f : State → α) : Stepped Tray α := .get fun tray => f tray.state

@[simp] theorem run_look {α : Type} (f : State → α) (tray : Tray) :
    (look f).run tray = (f tray.state, tray) := rfl

/-- A change to the state. -/
def change {α : Type} (f : State → α × State) : Stepped Tray α :=
  .act fun tray =>
    let (result, state) := f tray.state
    (result, { tray with state })

/-- Queues a signal. -/
def send (signal : Signal) : Stepped Tray Unit :=
  .modify fun tray => { tray with signals := tray.signals.map (· ++ [signal]) }

/-- Hands out a command. It is carried out by itself, at some later time. -/
def submit (command : Command) : Stepped Tray Unit :=
  .modify fun tray => { tray with commands := tray.commands ++ [command] }

/-- Tells the desktop about a new revision of the menu. -/
def layoutChanged (revision : UInt32) : Stepped Tray Unit :=
  send (.layoutUpdated revision Menu.rootId)

/-! ## Changes -/

/-- Takes the outcome of a status check. Nothing happens if it is known already. -/
def updateStatus (now : Instant) (connected : Bool) : Stepped Tray Unit := do
  if (← look (·.connected)) = connected then return
  let some revision ← change (State.commit now connected (Icon.render connected)) | return
  send .newIcon
  send .newToolTip
  layoutChanged revision

/-- Takes the name of the network. -/
def setNetwork (network : Option String) : Stepped Tray Unit := do
  let some revision ← change (State.setNetwork network) | return
  layoutChanged revision

/-- Takes whether the client is started with the system. -/
def setAutoConnect (enabled : Bool) : Stepped Tray Unit := do
  let some revision ← change (State.setAutoConnect enabled) | return
  layoutChanged revision

/-- Brings the connection time up to date. -/
def refreshConnectionTime (now : Instant) : Stepped Tray Unit := do
  let some since ← look (·.connectedSince) | return
  let some revision ← change (State.setConnectionTime (now.since since).label) | return
  layoutChanged revision

/-! ## The menu -/

/-- Takes an event at an item, and gives the command that it asked for. -/
def event (id : Int32) (kind : String) : Stepped Tray (Option Command) := do
  let command? ← look (Menu.command? · id kind)
  if let some command := command? then submit command
  return command?

/-- Takes several events in a row. No event fails, so that the list of the items whose
    event failed is empty. -/
def eventGroup (events : List (Int32 × String)) : Stepped Tray (List Int32) := do
  events.forM fun (id, kind) => discard <| event id kind
  return []

/-- Prepares a menu for being shown, and says whether it has changed, which it always
    may have. The opening of the whole menu is a command of its own. -/
def aboutToShow (id : Int32) : Stepped Tray Bool := do
  if id = Menu.rootId then submit .menuOpening
  return true

/-- Prepares several menus for being shown, and gives those that have changed and those
    that are not there, which are all and none. -/
def aboutToShowGroup (ids : List Int32) : Stepped Tray (List Int32 × List Int32) := do
  if Menu.rootId ∈ ids then submit .menuOpening
  return (ids, [])

end Tray

end VpnTray
