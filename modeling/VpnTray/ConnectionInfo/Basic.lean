import VpnTray.Client.Basic
import VpnTray.ConnectionInfo.Sources

/-!
# Connection details

All that can be found out about the connection, as it is shown in a window and put on
the clipboard. Each detail comes from one run of some program; if the run fails, or
does not tell the detail, it keeps its default.

* `ConnectionInfo.gather`: finds the details out;
* `ConnectionInfo.plainText`: the text of the details.
-/

namespace VpnTray

open Text

/-- The details of a connection. -/
structure ConnectionInfo where
  status : Text := "Unknown"
  connectedSince : Text := "-"
  network : Text := "-"
  networkUrl : Text := "-"
  user : Text := "-"
  secureDns : Text := "-"
  clientVersion : Text := "-"
  interface : Text := "-"
  ipAddress : Text := "-"
  dnsServers : Text := "-"
  dnsDomain : Text := "-"
  routes : Text := "-"
  resources : Text := "-"
deriving DecidableEq, Repr

namespace ConnectionInfo

/-- The network interface of the client. -/
def interfaceName : Text := "sdwan0"

/-! ## Finding out -/

/-- The details with those from the client's status. -/
def withStatus (output : Text) (info : ConnectionInfo) : ConnectionInfo :=
  { info with
    status := (lastOfLines? statusOfLine? output).getD info.status
    secureDns := (lastOfLines? secureDnsOfLine? output).getD info.secureDns }

/-- The details with those of an account. -/
def withAccount (account : Account) (info : ConnectionInfo) : ConnectionInfo :=
  { info with user := account.user, network := account.network, networkUrl := account.url }

/-- The details with the client's version. -/
def withVersion (output : Text) (info : ConnectionInfo) : ConnectionInfo :=
  { info with clientVersion := (version? output).getD info.clientVersion }

/-- The details with those of the network interface. -/
def withInterface (output : Text) (info : ConnectionInfo) : ConnectionInfo :=
  { info with interface := interfaceName, ipAddress := (address? output).getD info.ipAddress }

/-- The details with those of the name service. -/
def withDns (output : Text) (info : ConnectionInfo) : ConnectionInfo :=
  { info with
    dnsServers := (servers? output).getD info.dnsServers
    dnsDomain := (domain? output).getD info.dnsDomain }

/-- The details with the routes. -/
def withRoutes (output : Text) (info : ConnectionInfo) : ConnectionInfo :=
  { info with routes := (routes? output).getD info.routes }

/-- How a resource is listed. -/
def resourceLine (resource : Resource) : Text :=
  resource.name ++ " (" ++ resource.address ++ ")"

/-- The details with the resources, if there are any. -/
def withResources (resources : List Resource) (info : ConnectionInfo) : ConnectionInfo :=
  if resources.isEmpty then info
  else { info with resources := ['\n'].intercalate (resources.map resourceLine) }

/-- The details with the start of the client. -/
def withStart (now : Int) (output : Text) (info : ConnectionInfo) : ConnectionInfo :=
  match startTime? output with
  | none => info
  | some started => { info with connectedSince := describeSince started now }

/-- The details with those from the outcome of some work, if it did not fail. -/
def addFrom {α : Type} (work : Shell (Option α)) (use : α → ConnectionInfo → ConnectionInfo)
    (info : ConnectionInfo) : Shell ConnectionInfo :=
  return (← work).elim info (use · info)

/-- The result of work that may fail. -/
def optional {α : Type} (work : Attempt α) : Shell (Option α) :=
  return (← work.run).toOption

/-- What a program of the system prints. -/
def tool (program : Text) (args : List Text) : Shell (Option Text) :=
  return (← Shell.call program args).out?

/-- Finds the details out; `now` is the present, in seconds since the start of 1970. -/
def gather (client : Client) (now : Int) : Shell ConnectionInfo := do
  let info ← addFrom (optional (client.output ["status", "-v", "-d"])) withStatus {}
  let info ← addFrom (optional client.account) withAccount info
  let info ← addFrom (optional (client.output ["version"])) withVersion info
  let info ← addFrom (tool "ip" ["addr", "show", interfaceName]) withInterface info
  let info ← addFrom (tool "resolvectl" ["status", interfaceName]) withDns info
  let info ← addFrom (tool "ip" ["route", "show", "dev", interfaceName]) withRoutes info
  let info ← addFrom (optional client.resources) withResources info
  addFrom
    (tool "systemctl" ["show", service, "--property=ActiveEnterTimestamp", "--timestamp=unix"])
    (withStart now) info

/-! ## The text -/

/-- The column in which the details stand. -/
def labelWidth : Nat := 18

/-- A row of the text: a label and a detail, of which further lines are indented. -/
def row (label : Text) (value : Text) : Text :=
  let label := label ++ ":"
  label ++ List.replicate (labelWidth - label.length) ' ' ++
    replace '\n' ('\n' :: List.replicate labelWidth ' ') value

/-- The rows of the text, in groups with an empty row between them. -/
def textRows (info : ConnectionInfo) : List Text := [
  row "Status" info.status,
  row "Connected since" info.connectedSince,
  [],
  row "User" info.user,
  row "Network" info.network,
  row "Network URL" info.networkUrl,
  [],
  row "Interface" info.interface,
  row "IP address" info.ipAddress,
  row "DNS servers" info.dnsServers,
  row "DNS domain" info.dnsDomain,
  row "Secure DNS" info.secureDns,
  [],
  row "Routes" info.routes,
  [],
  row "Resources" info.resources,
  row "Client version" info.clientVersion]

/-- The text of the details. -/
def plainText (info : ConnectionInfo) : Text := ['\n'].intercalate info.textRows

end ConnectionInfo

end VpnTray
