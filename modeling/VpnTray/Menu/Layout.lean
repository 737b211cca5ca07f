import VpnTray.Menu.Tree

/-!
# Reading the menu

The desktop reads the menu in three ways: as a tree of items with their properties
down to some depth, as the properties of several items, and as a single property.
It can restrict the properties to some names. Each way reads one state.
-/

namespace VpnTray.Menu

/-- An item as the desktop gets to see it, with what is below it. -/
inductive Layout
  | node (id : Int32) (properties : Properties) (children : List Layout)

namespace Layout

/-- The number of the item. -/
def id : Layout → Int32
  | node id _ _ => id

/-- The properties of the item. -/
def properties : Layout → Properties
  | node _ properties _ => properties

/-- What is right below the item. -/
def children : Layout → List Layout
  | node _ _ children => children

end Layout

/-- The depth that is left one level further down. A negative depth has no end. -/
def deeper (depth : Int32) : Int32 := if depth < 0 then depth else depth - 1

section Layout

variable (s : State) (names : List String)

mutual

/-- The layout of a menu down to a depth. -/
def Tree.layout (depth : Int32) : Tree → Layout
  | .node item children =>
    .node item.id (restrict names (item.properties s))
      (if depth = 0 then [] else layoutOfList (deeper depth) children)

/-- The layouts of some menus down to a depth. -/
def layoutOfList (depth : Int32) : List Tree → List Layout
  | [] => []
  | tree :: trees => tree.layout depth :: layoutOfList depth trees

end

end Layout

/-- The revision of the menu, and its layout from an item on down to a depth. -/
def layout? (s : State) (parent depth : Int32) (names : List String) :
    Option (UInt32 × Layout) :=
  (menu.find? parent).map fun tree => (s.revision, tree.layout s names depth)

/-- The properties of those of the items that there are. -/
def group (s : State) (ids : List Int32) (names : List String) : List (Int32 × Properties) :=
  ids.filterMap fun id =>
    (menu.find? id).map fun tree => (tree.id, restrict names (tree.item.properties s))

/-- A single property of an item, if there is one. -/
def property? (s : State) (id : Int32) (name : String) : Option PropertyValue :=
  (menu.find? id).bind fun tree => (tree.item.properties s).lookup name

/-- The command that an event at an item asks for. Only a click asks for anything. -/
def command? (s : State) (id : Int32) (event : String) : Option Command :=
  if event ≠ "clicked" ∨ id = rootId then none
  else (menu.find? id).bind fun tree => tree.item.command? s

end VpnTray.Menu
