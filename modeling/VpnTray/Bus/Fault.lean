import VpnTray.Text.Basic

/-!
# Faults on the bus

A call that cannot be answered gets a fault: the name of a kind of error and a text.
-/

namespace VpnTray.Bus

/-- Why a property could not be read or written. -/
inductive PropertyError
  | unknownInterface (name : String)
  | unknownProperty (name : String)
  | notWritable (name : String)
deriving DecidableEq, Repr

/-- The text of a property error. -/
def PropertyError.message : PropertyError → String
  | .unknownInterface name => "interface " ++ name ++ " not found"
  | .unknownProperty name => "property " ++ name ++ " not found"
  | .notWritable name => "property " ++ name ++ " is not writable"

/-- Why a call could not be answered. -/
inductive Fault
  | missingPath
  | noObject (path : String)
  | missingMember
  | unknownMethod (interface member : String)
  | unknownInterface (path interface : String)
  | wrongArguments (got expected : String)
  /-- A string among the arguments holds the character with the number zero. -/
  | zeroInString
  | noMenuItem (id : Int32)
  | property (cause : PropertyError)
deriving DecidableEq, Repr

namespace Fault

/-- The name of the kind of error. -/
def name (fault : Fault) : String :=
  "org.freedesktop.DBus.Error." ++
    match fault with
    | .missingPath | .noObject _ => "UnknownObject"
    | .missingMember | .unknownMethod .. => "UnknownMethod"
    | .unknownInterface .. | .property (.unknownInterface _) => "UnknownInterface"
    | .wrongArguments .. | .zeroInString | .noMenuItem _ => "InvalidArgs"
    | .property (.unknownProperty _) => "UnknownProperty"
    | .property (.notWritable _) => "PropertyReadOnly"

/-- The text of a fault. -/
def message : Fault → String
  | .missingPath => "missing object path"
  | .noObject path => "no object at " ++ path
  | .missingMember => "missing member"
  | .unknownMethod interface member => "unknown method " ++ interface ++ "." ++ member
  | .unknownInterface path interface => path ++ " does not implement " ++ interface
  | .wrongArguments got expected =>
    "Signature mismatch: got `" ++ got ++ "`, expected `" ++ expected ++ "`"
  | .zeroInString =>
    "invalid value: character `\x00`, expected D-Bus string type must not contain interior null bytes"
  | .noMenuItem id => "no menu item with id " ++ toString id.toInt
  | .property cause => cause.message

end Fault

end VpnTray.Bus
