import VpnTray.Bus.Fault
import VpnTray.Bus.Names
import VpnTray.Bus.Value
import VpnTray.Stepped

/-!
# Properties

The properties of an object, by the names of their interfaces and their own names. A
property is a fixed value, or is computed from the state `σ` each time it is read; the
computation may change the state, so that the number of readings can matter. Reading
a computed property is one step. No property can be written from the bus.

* `Registry.register`: adds a property, in place of one with the same names;
* `Registry.get`, `Registry.getAll`, `Registry.set`: what the bus can ask for.
-/

namespace VpnTray.Bus

/-- A property of an object. -/
inductive Property (σ : Type)
  | fixed (value : Value)
  | computed (read : σ → Value × σ)

variable {σ : Type}

/-- Reads a property. -/
def Property.read : Property σ → Stepped σ Value
  | fixed value => pure value
  | computed read => .act read

/-- The properties of an object. -/
structure Registry (σ : Type) where
  interfaces : Names (Names (Property σ)) := []

namespace Registry

/-- Adds a property, in place of one with the same names. -/
def register (registry : Registry σ) (interface name : String) (property : Property σ) :
    Registry σ :=
  let properties := (registry.interfaces.lookup interface).getD []
  ⟨registry.interfaces.put interface (properties.put name property)⟩

/-- The registry with the properties of one interface. -/
def ofList (interface : String) (properties : List (String × Property σ)) : Registry σ :=
  properties.foldl (fun registry (name, property) => registry.register interface name property) {}

/-- Finds a property. -/
def find (registry : Registry σ) (interface name : String) :
    Except PropertyError (Property σ) :=
  match registry.interfaces.lookup interface with
  | none => .error (.unknownInterface interface)
  | some properties =>
    match properties.lookup name with
    | none => .error (.unknownProperty name)
    | some property => .ok property

/-- Reads a property. -/
def get (registry : Registry σ) (interface name : String) :
    Stepped σ (Except PropertyError Value) :=
  match registry.find interface name with
  | .error cause => return .error cause
  | .ok property => return .ok (← property.read)

/-- Reads properties, one after the other. -/
def readAll : Names (Property σ) → Stepped σ (List (String × Value))
  | [] => return []
  | (name, property) :: rest => do
    let value ← property.read
    return (name, value) :: (← readAll rest)

/-- Reads all properties of an interface. -/
def getAll (registry : Registry σ) (interface : String) :
    Stepped σ (Except PropertyError (List (String × Value))) :=
  match registry.interfaces.lookup interface with
  | none => return .error (.unknownInterface interface)
  | some properties => return .ok (← readAll properties)

/-- Writes a property, which is refused. -/
def set (_registry : Registry σ) (_interface name : String) (_value : Value) :
    Except PropertyError (Registry σ) :=
  .error (.notWritable name)

end Registry

end VpnTray.Bus
