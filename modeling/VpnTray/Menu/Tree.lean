import VpnTray.Menu.Item

/-!
# The menu

The menu is a tree of items. Its root, which has the number 0, is not shown itself:
the items below it are the rows of the menu, and those of the exit nodes are in a
menu of their own.

* `Tree.subtrees`: a menu and all the menus in it;
* `Tree.find?`: the item with a number, and what is below it;
* `menu`: the menu of the tray.
-/

namespace VpnTray.Menu

/-- An item with the items below it. -/
inductive Tree
  | node (item : Item) (children : List Tree)

namespace Tree

/-- The item at the top of a tree. -/
def item : Tree → Item
  | node item _ => item

/-- The trees right below the item at the top. -/
def children : Tree → List Tree
  | node _ children => children

/-- The number of the item at the top. -/
def id (tree : Tree) : Int32 := tree.item.id

mutual

/-- A tree and all trees in it, each before those below it. -/
def subtrees : Tree → List Tree
  | node item children => node item children :: subtreesOfList children

/-- The trees of a list and all trees in them. -/
def subtreesOfList : List Tree → List Tree
  | [] => []
  | tree :: trees => tree.subtrees ++ subtreesOfList trees

end

theorem subtreesOfList_eq_flatMap (trees : List Tree) :
    subtreesOfList trees = trees.flatMap subtrees := by
  induction trees with
  | nil => rfl
  | cons tree trees ih => rw [subtreesOfList, ih, List.flatMap_cons]

@[simp] theorem subtrees_node (item : Item) (children : List Tree) :
    (node item children).subtrees = node item children :: children.flatMap subtrees := by
  rw [subtrees, subtreesOfList_eq_flatMap]

/-- The part of a tree whose item has a number. -/
def find? (tree : Tree) (id : Int32) : Option Tree := tree.subtrees.find? (·.id == id)

@[simp] theorem find?_id (tree : Tree) : tree.find? tree.id = some tree := by
  cases tree with
  | node item children =>
    rw [find?, subtrees_node]
    exact List.find?_cons_of_pos (beq_self_eq_true _)

end Tree

/-! ## The items -/

/-- A line between groups of items. -/
def separator (id : Int32) : Tree := .node { id, kind := .separator } []

/-- An item that runs a command. -/
def commandItem (id : Int32) (label : String) (command : Command)
    (enabled : Availability := .always) : Tree :=
  .node { id, label := some (.fixed label), enabled, action := some (.run command) } []

/-- An item that only shows something. -/
def detail (id : Int32) (label : Label) (visible : Availability := .always) : Tree :=
  .node { id, label := some label, enabled := .never, visible } []

/-- The item that connects and disconnects. -/
def toggleItem : Item :=
  { id := 1
    label := some (.byConnection "Disconnect" "Connect")
    action := some .toggleConnection }

/-- The item that says whether the client is started with the system. -/
def autoConnectItem : Item :=
  { id := 17
    label := some (.fixed "Auto-connect")
    checkmark := true
    action := some .toggleAutoConnect }

/-- The menu of the exit nodes. -/
def exitNodes : Tree :=
  .node { id := 6, kind := .submenu, label := some (.fixed "Exit Node"),
          enabled := .whenConnected } [
    commandItem 101 "Start Exit Node" .startExitNode .whenConnected,
    commandItem 102 "Stop Exit Node" .stopExitNode .whenConnected,
    commandItem 104 "Exit Nodes..." .listExitNodes .whenConnected,
    commandItem 103 "Switch Exit Node..." .switchExitNode .whenConnected]

/-- The menu of the tray. -/
def menu : Tree :=
  .node { id := 0, kind := .submenu } [
    .node toggleItem [],
    separator 2,
    detail 14 .network .whenConnected,
    detail 15 .connectionTime .whenConnected,
    detail 4 (.byConnection "Status: Connected" "Status: Disconnected"),
    separator 5,
    commandItem 16 "Refresh Status" .refreshStatus,
    commandItem 3 "Connection Info..." .showConnectionInfo,
    separator 18,
    exitNodes,
    commandItem 7 "Resources..." .showResources .whenConnected,
    separator 19,
    commandItem 8 "Open Web Admin" .openWebAdmin,
    commandItem 9 "Generate Diagnostic Report" .diagnosticReport,
    .node autoConnectItem [],
    separator 10,
    commandItem 11 "About" .showAbout,
    separator 12,
    commandItem 13 "Quit" .quit]

/-- The number of the root. -/
def rootId : Int32 := 0

@[simp] theorem id_menu : menu.id = rootId := rfl

end VpnTray.Menu
