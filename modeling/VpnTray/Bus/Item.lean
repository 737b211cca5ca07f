import VpnTray.Bus.Objects
import VpnTray.Tray

/-!
# The item

The item in the tray shows an icon and a tool tip, which follow the connection; all
its other properties are fixed. A property that follows the connection is computed
each time it is read.
-/

namespace VpnTray.Bus

/-- What the desktop shows when the pointer rests on the item. -/
structure ToolTip where
  iconName : String
  icons : List Icon
  title : String
  description : String

/-- The tool tip for a state of the connection. -/
def toolTip (connected : Bool) : ToolTip :=
  { iconName := ""
    icons := []
    title := "Twingate"
    description := if connected then "Twingate - Connected" else "Twingate - Disconnected" }

/-- An image on the bus. -/
def iconValue (icon : Icon) : Value :=
  .struct [.int32 icon.width, .int32 icon.height, .bytes icon.data]

/-- Images on the bus. -/
def iconsValue (icons : List Icon) : Value := .array iconType (icons.map iconValue)

/-- A tool tip on the bus. -/
def ToolTip.value (tip : ToolTip) : Value :=
  .struct [.string tip.iconName, iconsValue tip.icons, .string tip.title, .string tip.description]

/-- A property that follows the state of the tray. -/
def following (f : State → Value) : Property Tray := .computed fun tray => (f tray.state, tray)

/-- What the item has to tell, by its names. -/
def itemEntries : List (String × Property Tray) := [
  ("Category", .fixed (.string "Communications")),
  ("Id", .fixed (.string "twingate-indicator")),
  ("Title", .fixed (.string "Twingate")),
  ("Status", .fixed (.string "Active")),
  ("WindowId", .fixed (.int32 0)),
  ("IconName", .fixed (.string "")),
  ("IconPixmap", following fun s => iconsValue [s.icon]),
  ("OverlayIconName", .fixed (.string "")),
  ("OverlayIconPixmap", .fixed (iconsValue [])),
  ("AttentionIconName", .fixed (.string "")),
  ("AttentionIconPixmap", .fixed (iconsValue [])),
  ("AttentionMovieName", .fixed (.string "")),
  ("ToolTip", following fun s => (toolTip s.connected).value),
  ("Menu", .fixed (.objectPath "/MenuBar")),
  ("ItemIsMenu", .fixed (.boolean true))]

/-- The properties of the item. -/
def itemProperties : Registry Tray := .ofList itemInterface.name itemEntries

/-- The item of the tray. -/
def itemObject : Object Tray := ⟨"/StatusNotifierItem", .item, itemProperties⟩

end VpnTray.Bus
