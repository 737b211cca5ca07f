import VpnTray.Command
import VpnTray.ConnectionInfo.Basic
import VpnTray.Desktop

/-!
# Carrying out commands

Each command of the menu is carried out by running programs: the client does what was
asked for, and the desktop tells the user how it went. What a command asks of the
tray itself is a *follow-up*.

* `Actions.handle`: carries out a command, and gives its follow-up.
-/

namespace VpnTray

open Text

/-- What a command asks of the tray itself. -/
inductive FollowUp
  | refresh (what : Refresh)
  | quit
deriving DecidableEq, Repr

/-- The name, version and description of the tray. -/
def productName : Text := "Twingate Tray"

@[inherit_doc productName]
def version : Text := "0.1.0"

@[inherit_doc productName]
def description : Text :=
  "A CLI and tray application for monitoring and controlling Twingate connections."

/-- The text about the tray, and about the client if it is there. -/
def aboutText (clientVersion : Option Text) : Text :=
  productName ++ " " ++ version ++ "\n\n" ++ description ++ "\n\nClient: " ++
    clientVersion.getD "not installed"

/-- What commands are carried out with. -/
structure Actions where
  client : Client
  desktop : Desktop

namespace Actions

variable (actions : Actions)

/-- Tells the user that something failed. -/
def notifyFailure (title what : Text) (cause : Error) : Shell Unit :=
  actions.desktop.notify title (what ++ ": " ++ cause.message)

/-- Does something, and tells the user how it went: a title and a text for success, if
    that is told, and a title and the beginning of a text for failure. -/
def report {α : Type} (work : Attempt α) (success : Option (Text × Text))
    (failure : Text × Text) : Shell Unit := do
  match ← work.run with
  | .ok _ => if let some (title, body) := success then actions.desktop.notify title body
  | .error cause => actions.notifyFailure failure.1 failure.2 cause

/-! ## Connection -/

/-- Connects. -/
def connect : Shell Unit :=
  actions.report actions.client.connect none ("Connection Failed", "Failed to connect")

/-- Disconnects. -/
def disconnect : Shell Unit :=
  actions.report actions.client.disconnect none ("Disconnection Failed", "Failed to disconnect")

/-- Shows the details of the connection, up to `limit` times. -/
def showConnectionInfo (limit : Nat) (now : Int) : Shell Unit := do
  let info ← ConnectionInfo.gather actions.client now
  discard <| actions.desktop.showCopyable limit "Twingate Connection Information" info.plainText

/-- Sets whether the client is started with the system. -/
def setAutoConnect (enabled : Bool) : Shell Unit :=
  actions.report (VpnTray.setAutoConnect enabled)
    (some <|
      if enabled then ("Auto-connect Enabled", "Twingate will connect automatically at startup")
      else ("Auto-connect Disabled", "Twingate will no longer connect at startup"))
    ("Auto-connect Error", "Failed to change auto-connect")

/-! ## Exit nodes -/

/-- Switches exit nodes on. -/
def startExitNode : Shell Unit :=
  actions.report actions.client.startExitNode
    (some ("Exit Node Started", "All traffic is now routed through Twingate"))
    ("Exit Node Failed", "Failed to start exit node")

/-- Switches exit nodes off. -/
def stopExitNode : Shell Unit :=
  actions.report actions.client.stopExitNode
    (some ("Exit Node Stopped", "Split tunnel mode restored"))
    ("Exit Node Failed", "Failed to stop exit node")

/-- Makes an exit node the active one. -/
def switchTo (name : Text) : Shell Unit :=
  actions.report (actions.client.switchExitNode name)
    (some ("Exit Node Switched", "Now using exit node: " ++ name))
    ("Exit Node Failed", "Failed to switch to " ++ name)

/-- Asks for the exit nodes, and goes on with them unless that failed. -/
def withExitNodes (use : ExitNodes → Shell Unit) : Shell Unit := do
  match ← actions.client.exitNodes.run with
  | .ok nodes => use nodes
  | .error cause => actions.notifyFailure "Exit Node Error" "Failed to get exit nodes" cause

/-- Lets the user pick an exit node, or switch exit nodes on or off. -/
def listExitNodes : Shell Unit :=
  actions.withExitNodes fun nodes => do
    if nodes.available.isEmpty then
      actions.desktop.showMessage "Exit Nodes" "No exit nodes available"
    else
      let some row ← Desktop.choose "Exit Nodes" "Select an action:" "Option" nodes.actions
        | return
      match ExitNodeChoice.ofRow row with
      | .start => actions.startExitNode
      | .stop => actions.stopExitNode
      | .switch name => actions.switchTo name
      | .nothing => return

/-- Lets the user pick an exit node. -/
def switchExitNode : Shell Unit :=
  actions.withExitNodes fun nodes => do
    if nodes.available.isEmpty then
      actions.desktop.notify "Exit Node Error" "No exit nodes available"
    else
      let some row ← Desktop.choose "Switch Exit Node" "Select an exit node:" "Node"
          nodes.options
        | return
      actions.switchTo (nodeOfRow row)

/-! ## The network -/

/-- Begins to authenticate for a resource. -/
def authenticate (resource : Resource) : Shell Unit :=
  actions.report (actions.client.authenticate resource.name)
    (some ("Authentication Started", "Authentication initiated for " ++ resource.name))
    ("Authentication Failed", "Failed to authenticate " ++ resource.name)

/-- Shows the resources, and lets the user authenticate for one. -/
def showResources : Shell Unit := do
  match ← actions.client.resources.run with
  | .error cause => actions.notifyFailure "Resources Error" "Failed to get resources" cause
  | .ok resources =>
    if resources.isEmpty then
      actions.desktop.showMessage "Resources" "No resources available"
    else
      let some row ← Desktop.choose "Twingate Resources"
          "Available resources (select to authenticate locked resources):" "Resource"
          (resources.map Resource.label)
        | return
      let some resource := Resource.select? resources row | return
      if resource.needsAuth then actions.authenticate resource

/-- Opens the page on which the network is administered. -/
def openWebAdmin : Shell Unit := do
  match ← actions.client.account.run with
  | .error cause => actions.notifyFailure "Web Admin Error" "Failed to get network info" cause
  | .ok account =>
    if account.url = dash then
      actions.desktop.notify "Web Admin Error" "Network URL not available"
    else
      actions.report (openUrl account.url) none ("Web Admin Error", "Failed to open browser")

/-! ## The client -/

/-- Has the client make a report for those who look for faults. -/
def diagnosticReport : Shell Unit :=
  actions.report actions.client.diagnosticReport
    (some ("Diagnostic Report", "Diagnostic report generated successfully"))
    ("Diagnostic Report Failed", "Failed to generate report")

/-- Shows what the tray is. -/
def showAbout : Shell Unit := do
  let output ← ConnectionInfo.optional (actions.client.output ["version"])
  actions.desktop.showMessage "About Twingate Tray"
    (aboutText (output.bind ConnectionInfo.version?))

/-- Carries out a command; `now` is the present, in seconds since the start of 1970. A text that can
    be copied is shown up to `limit` times, whatever the limit is. -/
def handle (limit : Nat) (now : Int) : Command → Shell (Option FollowUp)
  | .connect => do actions.connect; return none
  | .disconnect => do actions.disconnect; return none
  | .showConnectionInfo => do actions.showConnectionInfo limit now; return none
  | .refreshStatus => return some (.refresh .status)
  | .startExitNode => do actions.startExitNode; return none
  | .stopExitNode => do actions.stopExitNode; return none
  | .listExitNodes => do actions.listExitNodes; return none
  | .switchExitNode => do actions.switchExitNode; return none
  | .showResources => do actions.showResources; return none
  | .openWebAdmin => do actions.openWebAdmin; return none
  | .diagnosticReport => do actions.diagnosticReport; return none
  | .setAutoConnect enabled => do
    actions.setAutoConnect enabled
    return some (.refresh .autoConnect)
  | .menuOpening => return some (.refresh .menuOpening)
  | .showAbout => do actions.showAbout; return none
  | .quit => return some .quit

end Actions

end VpnTray
