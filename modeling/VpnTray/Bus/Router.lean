import VpnTray.Bus.Item
import VpnTray.Bus.Message

/-!
# Answering calls

A call names an object, an interface and a method, and carries arguments. It is
answered if the object is there and has the interface, if the interface has the
method, if the arguments have the types that the method takes, and if they can be read;
it gets a fault for the first of these that fails. A call that names no interface means the one that
the object is there for.

* `ObjectKind.member?`: the method that an object has under a name;
* `call`: what a method does, once it is found and its arguments are checked;
* `route`: the answer to a message.

An answer may read the tray, and hand out commands of its menu; it never changes what
the tray shows.
-/

namespace VpnTray.Bus

/-- Work on the tray that may end in a fault. -/
abbrev Answering := ExceptT Fault (Stepped Tray)

/-- The objects of the tray. -/
def trayObjects : Objects Tray :=
  (Names.put menuObject.path menuObject []).put itemObject.path itemObject

/-! ## Methods by their names -/

/-- The methods by which properties are read. -/
def propertiesMember? : String → Option Method
  | "Get" => some .get
  | "GetAll" => some .getAll
  | "Set" => some .set
  | _ => none

/-- The methods of the item in the tray. -/
def itemMember? : String → Option Method
  | "Activate" => some .activate
  | "SecondaryActivate" => some .secondaryActivate
  | "ContextMenu" => some .contextMenu
  | "Scroll" => some .scroll
  | _ => none

/-- The methods of the menu. -/
def menuMember? : String → Option Method
  | "GetLayout" => some .getLayout
  | "GetGroupProperties" => some .getGroupProperties
  | "GetProperty" => some .getProperty
  | "Event" => some .event
  | "EventGroup" => some .eventGroup
  | "AboutToShow" => some .aboutToShow
  | "AboutToShowGroup" => some .aboutToShowGroup
  | _ => none

/-- The method that an object has under the name of an interface and a name in it, if
    there is one; nothing at all if the object does not have the interface. -/
def ObjectKind.member? (kind : ObjectKind) (interface member : String) : Option (Option Method) :=
  match interface, kind with
  | "org.freedesktop.DBus.Peer", _ => some (if member = "Ping" then some .ping else none)
  | "org.freedesktop.DBus.Introspectable", _ =>
    some (if member = "Introspect" then some .introspect else none)
  | "org.freedesktop.DBus.Properties", _ => some (propertiesMember? member)
  | "org.kde.StatusNotifierItem", .item => some (itemMember? member)
  | "com.canonical.dbusmenu", .menu => some (menuMember? member)
  | _, _ => none

/-! ## Arguments -/

namespace Method

/-- Some methods take nothing, and do not look at what they are sent. -/
def ignoresBody : Method → Bool
  | introspect | ping => true
  | _ => false

/-- The types of the arguments that a method reads. -/
def takes : Method → List Signature
  | get => [.string, .string]
  | getAll => [.string]
  | set => [.string, .string, .variant]
  | introspect | ping => []
  | activate | secondaryActivate | contextMenu => [.int32, .int32]
  | scroll => [.int32, .string]
  | getLayout => [.int32, .int32, .array .string]
  | getGroupProperties => [.array .int32, .array .string]
  | getProperty => [.int32, .string]
  | event => [.int32, .string, .variant, .uint32]
  | eventGroup => [.array (.struct [.int32, .string, .variant, .uint32])]
  | aboutToShow => [.int32]
  | aboutToShowGroup => [.array .int32]

end Method

/-- The fault of a call whose arguments have the wrong types. -/
def mismatch (method : Method) (body : List Value) : Fault :=
  .wrongArguments (bodySignature body) (bodyText method.takes)

/-- An outcome of the registry as an answer. -/
def ofRegistry {α : Type} (read : Stepped Tray (Except PropertyError α)) : Answering α :=
  ExceptT.mk do return (← read).mapError .property

/-! ## Answers -/

/-- The kinds of events in a list of events, with their items. -/
def eventsOf (events : List Value) : List (Int32 × String) :=
  events.filterMap fun
    | .struct [.int32 id, .string kind, _, _] => some (id, kind)
    | _ => none

/-- What a method of an object does with arguments of the types that it takes. -/
def call (object : Object Tray) : Method → List Value → Answering Reply
  | .ping, _ => return .empty
  | .introspect, _ => return .document object.document
  | .get, [.string interface, .string property] =>
    return .value (← ofRegistry (object.properties.get interface property))
  | .getAll, [.string interface] =>
    return .properties (← ofRegistry (object.properties.getAll interface))
  | .set, [.string interface, .string property, .variant value] => do
    discard <| ofRegistry (pure (object.properties.set interface property value))
    return .empty
  | .activate, [.int32 _, .int32 _] => return .empty
  | .secondaryActivate, [.int32 _, .int32 _] => return .empty
  | .contextMenu, [.int32 _, .int32 _] => return .empty
  | .scroll, [.int32 _, .string _] => return .empty
  | .getLayout, [.int32 parent, .int32 depth, .array _ names] => do
    match ← (Tray.look (Menu.layout? · parent depth (names.filterMap Value.string?)) :
      Stepped Tray _) with
    | none => throw (.noMenuItem parent)
    | some (revision, layout) => return .layout revision layout
  | .getGroupProperties, [.array _ ids, .array _ names] => do
    let group ← (Tray.look (Menu.group · (ids.filterMap Value.int32?)
      (names.filterMap Value.string?)) : Stepped Tray _)
    return .group (group.map fun (id, properties) => (id, menuProperties properties))
  | .getProperty, [.int32 id, .string name] => do
    let property ← (Tray.look (Menu.property? · id name) : Stepped Tray _)
    return .value (property.elim (.string "") propertyValue)
  | .event, [.int32 id, .string kind, .variant _, .uint32 _] => do
    discard <| (Tray.event id kind : Stepped Tray _)
    return .empty
  | .eventGroup, [.array _ events] => do
    return .ids (← (Tray.eventGroup (eventsOf events) : Stepped Tray _))
  | .aboutToShow, [.int32 id] => do
    return .flag (← (Tray.aboutToShow id : Stepped Tray _))
  | .aboutToShowGroup, [.array _ ids] => do
    let (updates, errors) ← (Tray.aboutToShowGroup (ids.filterMap Value.int32?) :
      Stepped Tray _)
    return .idLists updates errors
  | method, body => throw (mismatch method body)

/-- Finds the object and the method that a message is for. -/
def target (message : Message) : Except Fault (Object Tray × Method) := do
  let some path := message.path | throw .missingPath
  let some object := trayObjects.get? path | throw (.noObject path)
  let some member := message.member | throw .missingMember
  let name := message.interface.getD object.kind.interface.name
  let some method? := object.kind.member? name member | throw (.unknownInterface path name)
  let some method := method? | throw (.unknownMethod name member)
  return (object, method)

/-- The answer to a message. -/
def route (message : Message) : Answering Reply := do
  let (object, method) ← (target message : Except Fault _)
  let arguments := arguments message.body
  if method.ignoresBody then call object method arguments
  else if Value.types arguments ≠ method.takes then throw (mismatch method message.body)
  else if Value.anyZero arguments then throw .zeroInString
  else call object method arguments

end VpnTray.Bus
