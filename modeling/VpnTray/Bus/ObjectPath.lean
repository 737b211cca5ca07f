/-!
# Object paths

Objects on the bus are named by paths: the root is a slash, and every other path is
made of elements with a slash before each of them, where an element is one or more
ASCII letters, digits and underscores.
-/

namespace VpnTray.Bus

/-- The character may occur in an element of a path. -/
def isPathChar (c : Char) : Bool := c.isAlphanum || c == '_'

/-- The texts between the slashes of a path are elements. -/
def arePathElements (elements : List (List Char)) : Bool :=
  elements.all fun element => !element.isEmpty && element.all isPathChar

/-- The text is an object path. -/
def isObjectPath (path : String) : Bool :=
  match path.toList with
  | ['/'] => true
  | '/' :: rest => arePathElements (rest.splitOnP (· == '/'))
  | _ => false

end VpnTray.Bus
