import VpnTray.Bus.Interface

/-!
# Interface documents

An object shows its interfaces as an XML document, which is written from their
declarations. The names in it need no escaping: they are fixed words, and the path of
an object holds letters, digits, underscores and slashes only.
-/

namespace VpnTray.Bus

/-- A tag with what is within it, or one that is closed at once if nothing is. -/
def element (indent tag attributes : String) (content : List String) : String :=
  if content.isEmpty then indent ++ "<" ++ tag ++ attributes ++ "/>\n"
  else
    indent ++ "<" ++ tag ++ attributes ++ ">\n" ++ String.join content ++
      indent ++ "</" ++ tag ++ ">\n"

/-- An attribute of a tag. -/
def attr (name value : String) : String := " " ++ name ++ "=\"" ++ value ++ "\""

/-- The tag of an argument; `direction` is an attribute or empty. -/
def Argument.xml (direction : String) (argument : Argument) : String :=
  element "      " "arg"
    (attr "name" argument.name ++ attr "type" argument.type.text ++ direction) []

/-- The tag of a method. -/
def Method.xml (method : Method) : String :=
  element "    " "method" (attr "name" method.name)
    (method.inputs.map (·.xml (attr "direction" "in")) ++
      method.outputs.map (·.xml (attr "direction" "out")))

/-- The tag of a signal. -/
def SignalDeclaration.xml (signal : SignalDeclaration) : String :=
  element "    " "signal" (attr "name" signal.name) (signal.carries.map (·.xml ""))

/-- The tag of a property. -/
def propertyXml (property : Argument) : String :=
  element "    " "property"
    (attr "name" property.name ++ attr "type" property.type.text ++
      attr "access" "read") []

/-- The tag of an interface. -/
def Interface.xml (interface : Interface) : String :=
  element "  " "interface" (attr "name" interface.name)
    (interface.methods.map Method.xml ++ interface.signals.map SignalDeclaration.xml ++
      interface.properties.map propertyXml)

/-- The declaration that a document begins with. -/
def doctype : String :=
  "!DOCTYPE node PUBLIC \"-//freedesktop//DTD D-BUS Object Introspection 1.0//EN\"\n" ++
    " \"http://www.freedesktop.org/standards/dbus/1.0/introspect.dtd\""

/-- The document of the object at a path. -/
def document (path : String) (interfaces : List Interface) : String :=
  "<" ++ doctype ++ ">\n" ++ element "" "node" (attr "name" path) (interfaces.map Interface.xml)

end VpnTray.Bus
