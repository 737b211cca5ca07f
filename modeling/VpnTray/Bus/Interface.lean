import VpnTray.Bus.Signature

/-!
# Interfaces

An interface of an object declares the methods that it answers, the signals that it
sends and the properties that it has, with the types of all that they carry. The
declarations here are what an object shows of itself when it is asked to.
-/

namespace VpnTray.Bus

/-- A value that a method or a signal carries. -/
structure Argument where
  name : String
  type : Signature
deriving Repr

/-- A method that the objects of the tray answer. -/
inductive Method
  | get
  | getAll
  | set
  | introspect
  | ping
  | activate
  | secondaryActivate
  | contextMenu
  | scroll
  | getLayout
  | getGroupProperties
  | getProperty
  | event
  | eventGroup
  | aboutToShow
  | aboutToShowGroup
deriving DecidableEq, Repr

/-- The type of an item of a layout: its number, its properties, and what is below it. -/
def layoutType : Signature := .struct [.int32, .dict .string .variant, .array .variant]

/-- The type of an item's properties with its number. -/
def groupType : Signature := .struct [.int32, .dict .string .variant]

/-- The type of an event at an item: the item, the kind of event, data and a time. -/
def eventType : Signature := .struct [.int32, .string, .variant, .uint32]

/-- The type of an image: its width, its height, and its bytes. -/
def iconType : Signature := .struct [.int32, .int32, .array .byte]

/-- The type of a tool tip: an icon's name, images, a title and a description. -/
def toolTipType : Signature := .struct [.string, .array iconType, .string, .string]

namespace Method

/-- The name of a method. -/
def name : Method → String
  | get => "Get"
  | getAll => "GetAll"
  | set => "Set"
  | introspect => "Introspect"
  | ping => "Ping"
  | activate => "Activate"
  | secondaryActivate => "SecondaryActivate"
  | contextMenu => "ContextMenu"
  | scroll => "Scroll"
  | getLayout => "GetLayout"
  | getGroupProperties => "GetGroupProperties"
  | getProperty => "GetProperty"
  | event => "Event"
  | eventGroup => "EventGroup"
  | aboutToShow => "AboutToShow"
  | aboutToShowGroup => "AboutToShowGroup"

/-- What a method takes. -/
def inputs : Method → List Argument
  | get => [⟨"interface", .string⟩, ⟨"property", .string⟩]
  | getAll => [⟨"interface", .string⟩]
  | set => [⟨"interface", .string⟩, ⟨"property", .string⟩, ⟨"value", .variant⟩]
  | introspect => []
  | ping => []
  | activate | secondaryActivate | contextMenu => [⟨"x", .int32⟩, ⟨"y", .int32⟩]
  | scroll => [⟨"delta", .int32⟩, ⟨"orientation", .string⟩]
  | getLayout =>
    [⟨"parentId", .int32⟩, ⟨"recursionDepth", .int32⟩, ⟨"propertyNames", .array .string⟩]
  | getGroupProperties => [⟨"ids", .array .int32⟩, ⟨"propertyNames", .array .string⟩]
  | getProperty => [⟨"id", .int32⟩, ⟨"name", .string⟩]
  | event => [⟨"id", .int32⟩, ⟨"eventId", .string⟩, ⟨"data", .variant⟩, ⟨"timestamp", .uint32⟩]
  | eventGroup => [⟨"events", .array eventType⟩]
  | aboutToShow => [⟨"id", .int32⟩]
  | aboutToShowGroup => [⟨"ids", .array .int32⟩]

/-- What a method gives. -/
def outputs : Method → List Argument
  | get => [⟨"value", .variant⟩]
  | getAll => [⟨"properties", .dict .string .variant⟩]
  | introspect => [⟨"xml_data", .string⟩]
  | getLayout => [⟨"revision", .uint32⟩, ⟨"layout", layoutType⟩]
  | getGroupProperties => [⟨"properties", .array groupType⟩]
  | getProperty => [⟨"value", .variant⟩]
  | eventGroup => [⟨"idErrors", .array .int32⟩]
  | aboutToShow => [⟨"needUpdate", .boolean⟩]
  | aboutToShowGroup => [⟨"updatesNeeded", .array .int32⟩, ⟨"idErrors", .array .int32⟩]
  | set | ping | activate | secondaryActivate | contextMenu | scroll | event => []

/-- The types that a method takes. -/
def inputTypes (method : Method) : List Signature := method.inputs.map (·.type)

/-- The types that a method gives. -/
def outputTypes (method : Method) : List Signature := method.outputs.map (·.type)

end Method

/-- A signal of an interface, with what it carries. -/
structure SignalDeclaration where
  name : String
  carries : List Argument := []
deriving Repr

/-- An interface. Its properties have names and types, and can only be read. -/
structure Interface where
  name : String
  methods : List Method := []
  signals : List SignalDeclaration := []
  properties : List Argument := []
deriving Repr

/-! ## The interfaces of every object -/

/-- The interface by which properties are read. -/
def propertiesInterface : Interface where
  name := "org.freedesktop.DBus.Properties"
  methods := [.get, .getAll, .set]

/-- The interface by which an object shows its interfaces. -/
def introspectableInterface : Interface where
  name := "org.freedesktop.DBus.Introspectable"
  methods := [.introspect]

/-- The interface by which it is seen that an object is there. -/
def peerInterface : Interface where
  name := "org.freedesktop.DBus.Peer"
  methods := [.ping]

/-! ## The interfaces of the tray -/

/-- The interface of the item in the tray. -/
def itemInterface : Interface where
  name := "org.kde.StatusNotifierItem"
  methods := [.activate, .secondaryActivate, .contextMenu, .scroll]
  signals := [⟨"NewTitle", []⟩, ⟨"NewIcon", []⟩, ⟨"NewAttentionIcon", []⟩,
    ⟨"NewOverlayIcon", []⟩, ⟨"NewToolTip", []⟩, ⟨"NewStatus", [⟨"status", .string⟩]⟩]
  properties := [⟨"Category", .string⟩, ⟨"Id", .string⟩, ⟨"Title", .string⟩,
    ⟨"Status", .string⟩, ⟨"WindowId", .int32⟩, ⟨"IconName", .string⟩,
    ⟨"IconPixmap", .array iconType⟩, ⟨"OverlayIconName", .string⟩,
    ⟨"OverlayIconPixmap", .array iconType⟩, ⟨"AttentionIconName", .string⟩,
    ⟨"AttentionIconPixmap", .array iconType⟩, ⟨"AttentionMovieName", .string⟩,
    ⟨"ToolTip", toolTipType⟩, ⟨"ItemIsMenu", .boolean⟩, ⟨"Menu", .objectPath⟩]

/-- The interface of the menu. -/
def menuInterface : Interface where
  name := "com.canonical.dbusmenu"
  methods := [.getLayout, .getGroupProperties, .getProperty, .event, .eventGroup,
    .aboutToShow, .aboutToShowGroup]
  signals := [
    ⟨"ItemsPropertiesUpdated", [⟨"updatedProps", .array groupType⟩,
      ⟨"removedProps", .array (.struct [.int32, .array .string])⟩]⟩,
    ⟨"LayoutUpdated", [⟨"revision", .uint32⟩, ⟨"parent", .int32⟩]⟩,
    ⟨"ItemActivationRequested", [⟨"id", .int32⟩, ⟨"timestamp", .uint32⟩]⟩]
  properties := [⟨"Version", .uint32⟩, ⟨"TextDirection", .string⟩, ⟨"Status", .string⟩,
    ⟨"IconThemePath", .array .string⟩]

end VpnTray.Bus
