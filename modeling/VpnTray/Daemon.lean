import VpnTray.CommandLine
import VpnTray.Config.Load
import VpnTray.Lock.Basic

/-!
# The life of the tray

The tray takes its lock, reads its configuration, appears on the bus, and stays there
until it is told to quit, by the menu or by a signal, or until the bus goes away. In
every case it gives the lock back that it has taken.

* `Daemon.run`: the life of the tray, as far as files are concerned;
* `Daemon.exitCode`: how it ends.
-/

namespace VpnTray

/-- Why the tray stops waiting. It does not even begin to wait if it cannot be told of
    signals. -/
inductive Ending
  | quit
  | interrupt
  | terminate
  | quitSignal
  | lost
  | deaf (cause : IoError)
deriving DecidableEq, Repr

/-- What an ending means: to be told to quit is success. -/
def Ending.outcome : Ending → Except Error Unit
  | .quit | .interrupt | .terminate | .quitSignal => .ok ()
  | .lost => .error .lostBus
  | .deaf cause => .error (.io cause)

/-- Where the tray finds its files, and what it knows about processes. -/
structure Daemon where
  processes : Processes
  lockPath : Path
  configPath : Path

namespace Daemon

variable (daemon : Daemon)

/-- The configuration with what the options say. -/
def configured (options : TrayOptions) (config : Config) : Config :=
  { config with
    pollIntervalMs := options.refreshInterval.getD config.pollIntervalMs
    notifications := options.notifications.getD config.notifications }

/-- Takes the lock. -/
def acquire : Stepped Files (Except Error Lock) :=
  (Lock.acquire daemon.processes { path := daemon.lockPath }).run

/-- Reads the configuration. -/
def load (options : TrayOptions) : Stepped Files (Except Error Config) :=
  .get fun files => (Config.load files daemon.configPath).map (configured options)

/-- The beginning, up to the appearance on the bus: the lock, if it was taken, and
    whether all has gone well. `start` says whether the tray can appear on the bus. -/
def begin (options : TrayOptions) (start : Except Error Unit) :
    Stepped Files (Option Lock × Except Error Unit) := do
  match ← daemon.acquire with
  | .error cause => return (none, .error cause)
  | .ok lock =>
    match ← daemon.load options with
    | .error cause => return (some lock, .error cause)
    | .ok _ => return (some lock, start)

/-- The life of the tray; `ending` says why it stops waiting, once it waits. -/
def run (options : TrayOptions) (start : Except Error Unit) (ending : Ending) :
    Stepped Files (Except Error Unit) := do
  let (lock, begun) ← daemon.begin options start
  if let some lock := lock then discard lock.release
  return begun.bind fun _ => ending.outcome

/-- The code by which the tray ends. -/
def exitCode : Except Error Unit → Nat
  | .ok () => 0
  | .error _ => 1

end Daemon

end VpnTray
