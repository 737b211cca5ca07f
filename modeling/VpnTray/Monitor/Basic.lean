import VpnTray.Client.Basic
import VpnTray.Command
import VpnTray.Desktop
import VpnTray.Tray

/-!
# The monitor

The monitor keeps the tray in step with the client. It checks the status at regular
times, looks up the network when a connection has come up, keeps the connection time
and the auto-connect setting up to date, and tells the user when the connection comes
or goes. A check that fails counts as disconnected, since a client that does not run
is not connected.

* `Watched.observe`: what follows from one status check;
* `Monitor.handle`: what is done at the times of the monitor and when it is asked.
-/

namespace VpnTray

open Text

/-- What the user is told by the monitor. -/
inductive Notice
  | connected
  | disconnected
  | refreshed
deriving DecidableEq, Repr

namespace Notice

/-- The title of a notice. -/
def title : Notice → Text
  | connected => "Twingate Connected"
  | disconnected => "Twingate Disconnected"
  | refreshed => "Status Refreshed"

/-- The text of a notice. -/
def body : Notice → Text
  | connected => "You are now connected to Twingate"
  | disconnected => "You are now disconnected from Twingate"
  | refreshed => "Twingate status has been refreshed"

/-- The notice of a change of the connection. -/
def ofConnection : Bool → Notice
  | true => connected
  | false => disconnected

end Notice

/-- What the monitor works on: the tray, and the outcome of the check before, if any. -/
structure Watched where
  tray : Tray := {}
  previous : Option Bool := none

/-- What follows from a status check: the state of the connection if it differs from the
    check before, and what the user is told. -/
structure Observation where
  changed : Option Bool
  notice : Option Notice
deriving DecidableEq, Repr

/-- The state of the connection that a check has shown. -/
def connectionOf {ε : Type} : Except ε Bool → Bool
  | .ok connected => connected
  | .error _ => false

/-- What the change from one check to the next means. The first check is a change that the
    user is not told. -/
def Observation.ofChange (previous : Option Bool) (connected : Bool) : Observation :=
  if previous = some connected then ⟨none, none⟩
  else ⟨some connected, previous.map fun _ => .ofConnection connected⟩

/-- Takes the result of a status check. -/
def Watched.observe {ε : Type} (now : Instant) (result : Except ε Bool) (watched : Watched) :
    Observation × Watched :=
  let connected := connectionOf result
  (.ofChange watched.previous connected,
    { tray := ((Tray.updateStatus now connected).run watched.tray).2
      previous := some connected })

/-- Work on what is watched that runs programs. -/
abbrev Watching := StateT Watched Shell

/-- What the monitor works with. -/
structure Monitor where
  client : Client
  desktop : Desktop

/-- What the monitor acts on: a time for a check or for the connection clock, or
    something that it is asked to do. -/
inductive Occasion
  | poll
  | clock
  | request (what : Refresh)
deriving DecidableEq, Repr

namespace Monitor

variable (monitor : Monitor)

/-- Does something with the tray. -/
def onTray {α : Type} (work : Stepped Tray α) : Watching α :=
  modifyGet fun watched =>
    let (result, tray) := work.run watched.tray
    (result, { watched with tray })

/-- Tells the user something. -/
def tell (notice : Notice) : Watching Unit :=
  (monitor.desktop.notify notice.title notice.body : Shell Unit)

/-- The name of the network in an account, unless it is a dash. -/
def networkName (account : Account) : Option String :=
  if account.network = dash then none else some (.ofList account.network)

/-- Looks the network up. -/
def refreshNetwork : Watching Unit := do
  match ← (monitor.client.account.run : Shell _) with
  | .ok account => onTray (Tray.setNetwork (networkName account))
  | .error _ => return

/-- Looks up whether the client is started with the system. -/
def refreshAutoConnect : Watching Unit := do
  let enabled ← (autoConnectEnabled : Shell Bool)
  onTray (Tray.setAutoConnect enabled)

/-- Takes the result of a status check, and tells the user what there is to tell. -/
def take {ε : Type} (now : Instant) (result : Except ε Bool) : Watching Observation := do
  let observation ← modifyGet (Watched.observe now result)
  if let some notice := observation.notice then monitor.tell notice
  return observation

/-- Checks the status. -/
def poll (now : Instant) : Watching Unit := do
  let result ← (monitor.client.checkStatus.run : Shell _)
  let observation ← monitor.take now result
  if observation.changed = some true then monitor.refreshNetwork

/-- Does what the monitor is asked to do. -/
def request (now : Instant) : Refresh → Watching Unit
  | .status => do
    monitor.poll now
    monitor.refreshNetwork
    monitor.tell .refreshed
  | .menuOpening => do
    onTray (Tray.refreshConnectionTime now)
    refreshAutoConnect
  | .autoConnect => refreshAutoConnect

/-- Acts on an occasion. -/
def handle (now : Instant) : Occasion → Watching Unit
  | .poll => monitor.poll now
  | .clock => onTray (Tray.refreshConnectionTime now)
  | .request what => monitor.request now what

end Monitor

end VpnTray
