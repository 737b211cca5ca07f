import VpnTray.Client.Account
import VpnTray.Client.ExitNodes
import VpnTray.Client.Resource
import VpnTray.Error
import VpnTray.Shell

/-!
# The client

The tray controls the client by running it. Most of what is asked of the client can
be asked by any user. What changes the system has to be *elevated*: it is run by a
program that asks for the right to do so, or else by another such program.

* `Client.output`: the client run by the user;
* `elevated`: a program run with the right to change the system.
-/

namespace VpnTray

/-- Work that is done by running programs and may fail. -/
abbrev Attempt := ExceptT Error Shell

/-- The name by which the system knows the client. -/
def service : Text := "twingate"

/-- The client, by the name of its program. -/
structure Client where
  program : Text
deriving DecidableEq, Repr

/-- What a program printed, or why it failed. -/
def Outcome.text (program : Text) (args : List Text) : Outcome → Except Error Text
  | .refused cause => .error (.io cause)
  | .unread => .error (.io .brokenPipe)
  | .finished true out err => .ok (out ++ err)
  | .finished false out err => .error (.command (.failed program args (out ++ err)))

/-- The programs that ask for the right to change the system, in the order of trying. -/
def elevators : List Text := ["pkexec", "sudo"]

/-- Runs a program by the first of some others that does it with success. -/
def elevatedBy (program : Text) (args : List Text) : List Text → Attempt Unit
  | [] => throw (.command (.notElevated program args))
  | elevator :: others => do
    let outcome ← (Shell.call elevator (program :: args) : Shell _)
    if outcome.succeeded then return
    elevatedBy program args others

/-- Runs a program with the right to change the system. -/
def elevated (program : Text) (args : List Text) : Attempt Unit :=
  elevatedBy program args elevators

namespace Client

variable (client : Client)

/-- Runs the client, and gives all that it printed. -/
def output (args : List Text) : Attempt Text :=
  ExceptT.mk do return (← Shell.call client.program args).text client.program args

/-- Runs the client with the right to change the system. -/
def privileged (args : List Text) : Attempt Unit := elevated client.program args

/-- Asks whether the client is connected. -/
def checkStatus : Attempt Bool := return isOnline (← client.output ["status"])

/-- Runs the client, whatever comes of it. -/
def runAnyway (args : List Text) : Shell Unit := do
  let _ ← (client.output args).run
  return

/-- Connects, and starts the client's own program on the desktop, if there is one. -/
def connect : Attempt Unit := do
  client.privileged ["start"]
  client.runAnyway ["desktop-restart"]

/-- Disconnects, and stops the client's own program on the desktop, if there is one. -/
def disconnect : Attempt Unit := do
  client.privileged ["stop"]
  client.runAnyway ["desktop-stop"]

/-- Asks for the account. -/
def account : Attempt Account :=
  return (Account.ofTable? (← client.output ["account", "list", "-d"])).getD .unknown

/-- Asks for the resources. -/
def resources : Attempt (List Resource) :=
  return Resource.ofTable (← client.output ["resources", "-d"])

/-- Begins to authenticate for a resource. -/
def authenticate (resource : Text) : Attempt Unit := do
  discard <| client.output ["auth", resource]

/-- Asks for the exit nodes. -/
def exitNodes : Attempt ExitNodes :=
  return ExitNodes.ofTable (← client.output ["exit-node", "list", "-d"])

/-- Switches exit nodes on. -/
def startExitNode : Attempt Unit := client.privileged ["exit-node", "start"]

/-- Switches exit nodes off. -/
def stopExitNode : Attempt Unit := client.privileged ["exit-node", "stop"]

/-- Makes an exit node the active one. -/
def switchExitNode (name : Text) : Attempt Unit :=
  client.privileged ["exit-node", "switch", name]

/-- Makes a report for those who look for faults. -/
def diagnosticReport : Attempt Text := client.output ["report"]

end Client

/-- Asks whether the client is started with the system. Anything but a clear answer is no. -/
def autoConnectEnabled : Shell Bool := do
  match ← Shell.call "systemctl" ["is-enabled", service] with
  | .finished _ out _ => return isEnabled out
  | _ => return false

/-- Sets whether the client is started with the system. -/
def setAutoConnect (enabled : Bool) : Attempt Unit :=
  elevated "systemctl" [if enabled then "enable" else "disable", service]

end VpnTray
