/-!
# Commands

What a click in the menu asks for, and what is asked of the monitor, which keeps
the tray in step with the client.
-/

namespace VpnTray

/-- What a click in the menu, or its opening, asks for. -/
inductive Command
  | connect
  | disconnect
  | showConnectionInfo
  | refreshStatus
  | startExitNode
  | stopExitNode
  | listExitNodes
  | switchExitNode
  | showResources
  | openWebAdmin
  | diagnosticReport
  | setAutoConnect (enabled : Bool)
  | menuOpening
  | showAbout
  | quit
deriving DecidableEq, Repr

/-- What the monitor is asked to look at out of turn. -/
inductive Refresh
  | status
  | menuOpening
  | autoConnect
deriving DecidableEq, Repr

/-- The commands. -/
def Command.all : List Command := [.connect, .disconnect, .showConnectionInfo, .refreshStatus,
  .startExitNode, .stopExitNode, .listExitNodes, .switchExitNode, .showResources, .openWebAdmin,
  .diagnosticReport, .setAutoConnect true, .setAutoConnect false, .menuOpening, .showAbout, .quit]

/-- The name of a command. -/
def Command.name : Command → String
  | .connect => "Connect"
  | .disconnect => "Disconnect"
  | .showConnectionInfo => "ShowConnectionInfo"
  | .refreshStatus => "RefreshStatus"
  | .startExitNode => "StartExitNode"
  | .stopExitNode => "StopExitNode"
  | .listExitNodes => "ListExitNodes"
  | .switchExitNode => "SwitchExitNode"
  | .showResources => "ShowResources"
  | .openWebAdmin => "OpenWebAdmin"
  | .diagnosticReport => "DiagnosticReport"
  | .setAutoConnect enabled => if enabled then "SetAutoConnect(true)" else "SetAutoConnect(false)"
  | .menuOpening => "MenuOpening"
  | .showAbout => "ShowAbout"
  | .quit => "Quit"

/-- The command with a name. -/
def Command.ofName? (name : String) : Option Command := all.find? (·.name = name)

/-- What the monitor can be asked to look at. -/
def Refresh.all : List Refresh := [.status, .menuOpening, .autoConnect]

/-- The name of a request to the monitor. -/
def Refresh.name : Refresh → String
  | .status => "Status"
  | .menuOpening => "MenuOpening"
  | .autoConnect => "AutoConnect"

/-- The request with a name. -/
def Refresh.ofName? (name : String) : Option Refresh := all.find? (·.name = name)

end VpnTray
