import VpnTray.Command
import VpnTray.State

/-!
# Menu items

An item of the menu has a number, by which the desktop names it, and *properties*,
which say how it looks; both are what the desktop gets to see. What an item shows
may depend on the state of the tray, and a click on it may ask for a command.

* `Item.properties`: the properties of an item in a state;
* `Item.command?`: the command that a click asks for in a state.
-/

namespace VpnTray.Menu

/-- The value of a property. -/
inductive PropertyValue
  | text (s : String)
  | flag (b : Bool)
  | number (n : Int32)
deriving DecidableEq, Repr

/-- Properties with their names, which ascend. -/
abbrev Properties := List (String × PropertyValue)

/-- What kind of row an item is. -/
inductive Kind
  | row
  | separator
  | submenu
deriving DecidableEq, Repr

/-- The label of an item. -/
inductive Label
  | fixed (text : String)
  | byConnection (connected disconnected : String)
  | network
  | connectionTime
deriving DecidableEq, Repr

/-- When an item is enabled, or visible. -/
inductive Availability
  | always
  | never
  | whenConnected
deriving DecidableEq, Repr

/-- What a click on an item does. -/
inductive Action
  | toggleConnection
  | toggleAutoConnect
  | run (command : Command)
deriving DecidableEq, Repr

/-- An item of the menu. -/
structure Item where
  /-- The number of the item. -/
  id : Int32
  kind : Kind := .row
  label : Option Label := none
  enabled : Availability := .always
  visible : Availability := .always
  /-- The item shows whether the client is started with the system. -/
  checkmark : Bool := false
  /-- What a click does, if anything. -/
  action : Option Action := none
deriving DecidableEq, Repr

/-- The text of a label. A network without a name is shown as a dash, and so is a
    connection without a time as a new one. -/
def Label.text (s : State) : Label → String
  | .fixed text => text
  | .byConnection connected disconnected => if s.connected then connected else disconnected
  | .network => "Network: " ++ s.network.getD "-"
  | .connectionTime => "Connected for: " ++ s.connectionTime.getD "just now"

/-- Whether something is available. -/
def Availability.holds (s : State) : Availability → Bool
  | .always => true
  | .never => false
  | .whenConnected => s.connected

/-- The command that an action asks for. -/
def Action.command (s : State) : Action → Command
  | .toggleConnection => if s.connected then .disconnect else .connect
  | .toggleAutoConnect => .setAutoConnect !s.autoConnect
  | .run command => command

namespace Item

variable (s : State) (item : Item)

/-- The properties of an item with a label. -/
def labelProperties : Properties × Properties :=
  match item.label with
  | none => ([], [])
  | some label =>
    ([("enabled", .flag (item.enabled.holds s)), ("label", .text (label.text s))],
      [("visible", .flag (item.visible.holds s))])

/-- Every property that an item has. -/
def properties : Properties :=
  match item.kind with
  | .separator => [("type", .text "separator"), ("visible", .flag (item.visible.holds s))]
  | kind =>
    let (front, back) := item.labelProperties s
    (if kind = .submenu then [("children-display", .text "submenu")] else []) ++ front ++
      (if item.checkmark then
        [("toggle-state", .number (if s.autoConnect then 1 else 0)),
          ("toggle-type", .text "checkmark")]
      else []) ++ back

/-- The command that a click on an item asks for, if any. -/
def command? : Option Command := item.action.map (·.command s)

end Item

/-- The properties with the given names, or all of them if no names are given. -/
def restrict (names : List String) (properties : Properties) : Properties :=
  if names.isEmpty then properties else properties.filter (·.1 ∈ names)

end VpnTray.Menu
