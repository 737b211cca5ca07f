import VpnTray.Bus.Document
import VpnTray.Bus.ObjectPath
import VpnTray.Bus.Registry
import VpnTray.Error

/-!
# Objects

An object on the bus has a path, is the item of the tray or its menu, and has
properties. The objects that a program shows on the bus are found by their paths, of
which each is a valid path and names one object.

* `Objects.insert`: adds an object;
* `Objects.get?`: the object at a path.
-/

namespace VpnTray.Bus

/-- What an object is. -/
inductive ObjectKind
  | item
  | menu
deriving DecidableEq, Repr

/-- The interface that an object is there for. -/
def ObjectKind.interface : ObjectKind → Interface
  | item => itemInterface
  | menu => menuInterface

/-- All interfaces of an object. -/
def ObjectKind.interfaces (kind : ObjectKind) : List Interface :=
  [kind.interface, propertiesInterface, introspectableInterface, peerInterface]

/-- An object on the bus; `σ` is the state that its properties are computed from. -/
structure Object (σ : Type) where
  path : String
  kind : ObjectKind
  properties : Registry σ := {}

variable {σ : Type}

/-- The interface document of an object. -/
def Object.document (object : Object σ) : String :=
  Bus.document object.path object.kind.interfaces

/-- The objects on the bus, by their paths. -/
abbrev Objects (σ : Type) := Names (Object σ)

namespace Objects

/-- The object at a path. -/
def get? (objects : Objects σ) (path : String) : Option (Object σ) := objects.lookup path

/-- Adds an object, unless its path is not valid or is taken. -/
def insert (object : Object σ) (objects : Objects σ) : Except Error (Objects σ) :=
  if !isObjectPath object.path then .error (.invalidObjectPath object.path)
  else if (objects.get? object.path).isSome then .error (.takenObjectPath object.path)
  else .ok (objects.put object.path object)

end Objects

end VpnTray.Bus
