import VpnTray.Text.Lines

/-!
# Exit nodes

All traffic can be sent through one of the exit nodes, which is then the active one.
The client lists their names, their locations, and which is active. The user picks
from rows: the names, where the active one is marked, and in one of the two pickers
also the row by which exit nodes are switched on or off.

* `ExitNodes.ofTable`: the exit nodes in a table;
* `ExitNodes.options`, `ExitNodes.actions`: the rows of the two pickers;
* `ExitNodeChoice.ofRow`, `nodeOfRow`: what a row stands for.
-/

namespace VpnTray

open Text

/-- The exit nodes, and the active one, if any. -/
structure ExitNodes where
  available : List Text := []
  active : Option Text := none
deriving DecidableEq, Repr

/-- What stands behind the name of the active node. -/
def activeMark : Text := " (active)"

/-- The row that switches exit nodes on. -/
def startRow : Text := "Start Exit Node"

/-- The row that switches exit nodes off. -/
def stopRow : Text := "Stop Exit Node"

/-- The row between the first one and the names. -/
def separatorRow : Text := "---"

namespace ExitNodes

/-- The rows of a table, without its headings, which begin with `Name`. -/
def rows (output : Text) : List (List Text) :=
  (((lines (trim output)).map trim).filter fun line =>
    !line.isEmpty && !startsWith "Name" line).map cells

/-- The row says that its node is active. -/
def isActive (row : List Text) : Bool := row[2]? = some "true".toList

/-- The exit nodes in a table. If several are said to be active, the last one is. -/
def ofTable (output : Text) : ExitNodes :=
  { available := (rows output).map (·.headD [])
    active := ((rows output).filter isActive).getLast?.map (·.headD []) }

/-- Some node is active. -/
def enabled (nodes : ExitNodes) : Bool := nodes.active.isSome

/-- The rows of the nodes. -/
def options (nodes : ExitNodes) : List Text :=
  nodes.available.map fun name => if nodes.active = some name then name ++ activeMark else name

/-- The rows of the nodes after those that switch exit nodes on or off. -/
def actions (nodes : ExitNodes) : List Text :=
  [if nodes.enabled then stopRow else startRow, separatorRow] ++ nodes.options

end ExitNodes

/-- The node that a row stands for. -/
def nodeOfRow (row : Text) : Text := (List.isSuffixOf? activeMark row).getD row

/-- What a row of the picker with actions stands for. -/
inductive ExitNodeChoice
  | start
  | stop
  | switch (name : Text)
  | nothing
deriving DecidableEq, Repr

/-- What a row of the picker with actions stands for. -/
def ExitNodeChoice.ofRow (row : Text) : ExitNodeChoice :=
  if row = startRow then .start
  else if row = stopRow then .stop
  else if row = separatorRow ∨ row = [] then .nothing
  else .switch (nodeOfRow row)

end VpnTray
