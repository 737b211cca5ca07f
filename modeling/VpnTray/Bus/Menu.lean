import VpnTray.Bus.Objects
import VpnTray.Tray

/-!
# The menu on the bus

An item of a layout is a record of its number, its properties by their names, and
what is below it; each item below is such a record again, in a value that could be
of any type.
-/

namespace VpnTray.Bus

/-- A property of an item of the menu. -/
def propertyValue : Menu.PropertyValue → Value
  | .text s => .string s
  | .flag b => .boolean b
  | .number n => .int32 n

/-- The properties of an item of the menu. -/
def menuProperties (properties : Menu.Properties) : List (String × Value) :=
  properties.map fun (name, value) => (name, propertyValue value)

mutual

/-- A layout on the bus. -/
def layoutValue : Menu.Layout → Value
  | .node id properties children =>
    .struct [.int32 id, .properties (menuProperties properties),
      .array .variant (layoutValues children)]

/-- What is below an item of a layout. -/
def layoutValues : List Menu.Layout → List Value
  | [] => []
  | layout :: layouts => .variant (layoutValue layout) :: layoutValues layouts

end

/-- The type of a layout is fixed, whatever is in it. -/
@[simp] theorem type_layoutValue (layout : Menu.Layout) :
    (layoutValue layout).type = layoutType := by
  cases layout
  rfl

/-- What the menu has to tell, by its names. -/
def menuEntries : List (String × Property Tray) := [
  ("Version", .fixed (.uint32 3)),
  ("TextDirection", .fixed (.string "ltr")),
  ("Status", .fixed (.string "normal")),
  ("IconThemePath", .fixed (.strings []))]

/-- The properties of the menu. -/
def menuRegistry : Registry Tray := .ofList menuInterface.name menuEntries

/-- The menu of the tray. -/
def menuObject : Object Tray := ⟨"/MenuBar", .menu, menuRegistry⟩

end VpnTray.Bus
