import VpnTray.Text.Lines
import VpnTray.Text.Lowercase

/-!
# Resources

The resources that the network offers, as the client lists them: a line of headings,
then a name, an address, an alias and a state of authentication in each line. A table
without aliases has three columns.

* `Resource.ofTable`: the resources in a table;
* `Resource.label`: the row by which a resource is picked;
* `Resource.select?`: the resource that was picked.
-/

namespace VpnTray

open Text

/-- A resource, and whether the user has to authenticate for it. -/
structure Resource where
  name : Text
  address : Text
  authStatus : Text
  needsAuth : Bool
deriving DecidableEq, Repr

namespace Resource

/-- A resource, of which a state that says `locked` asks for authentication. -/
def make (name address authStatus : Text) : Resource :=
  { name, address, authStatus, needsAuth := containsWord "locked" authStatus }

/-- The state of authentication in the cells after the address. -/
def authCell : List Text → Text
  | _ :: status :: _ => status
  | [status] => status
  | [] => []

/-- The resource in a row, which has a name and at least one more cell. -/
def ofRow? : List Text → Option Resource
  | name :: address :: rest =>
    if name.isEmpty then none else some (make name address (authCell rest))
  | _ => none

/-- The resources in a table, which has one line of headings. -/
def ofTable (output : Text) : List Resource :=
  ((lines (trim output)).drop 1).filterMap fun line => ofRow? (cells (trim line))

/-- The row by which a resource is picked. -/
def label (resource : Resource) : Text :=
  resource.name ++ " | " ++ resource.address ++
    if resource.needsAuth then " [Locked]".toList else []

/-- The first resource with a label. -/
def select? (resources : List Resource) (choice : Text) : Option Resource :=
  resources.find? (·.label = choice)

end Resource

end VpnTray
