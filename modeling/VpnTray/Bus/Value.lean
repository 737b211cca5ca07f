import VpnTray.Bus.Signature

/-!
# Values of the bus

What a message carries. An array and a dictionary know the types of what is in them,
as they may be empty; an array of bytes is kept as its bytes.
-/

namespace VpnTray.Bus

/-- A value on the bus. -/
inductive Value
  | byte (n : UInt8)
  | boolean (b : Bool)
  | int16 (n : Int16)
  | uint16 (n : UInt16)
  | int32 (n : Int32)
  | uint32 (n : UInt32)
  | int64 (n : Int64)
  | uint64 (n : UInt64)
  | double (x : Float)
  | string (s : String)
  | objectPath (path : String)
  | signature (types : List Signature)
  | bytes (data : ByteArray)
  | array (element : Signature) (items : List Value)
  | dict (key value : Signature) (entries : List (Value × Value))
  | struct (fields : List Value)
  | variant (value : Value)

namespace Value

mutual

/-- The type of a value. -/
def type : Value → Signature
  | byte _ => .byte
  | boolean _ => .boolean
  | int16 _ => .int16
  | uint16 _ => .uint16
  | int32 _ => .int32
  | uint32 _ => .uint32
  | int64 _ => .int64
  | uint64 _ => .uint64
  | double _ => .double
  | string _ => .string
  | objectPath _ => .objectPath
  | signature _ => .signature
  | bytes _ => .array .byte
  | array element _ => .array element
  | dict key value _ => .dict key value
  | struct fields => .struct (types fields)
  | variant _ => .variant

/-- The types of some values in a row. -/
def types : List Value → List Signature
  | [] => []
  | value :: values => value.type :: types values

end

@[simp] theorem types_eq_map (values : List Value) : types values = values.map type := by
  induction values with
  | nil => rfl
  | cons value values ih => rw [types, ih, List.map_cons]

mutual

/-- A string in the value holds the character with the number zero, which no string on
    the bus may hold. -/
def hasZero : Value → Bool
  | string s => s.toList.any (· = '\x00')
  | array _ items => anyZero items
  | dict _ _ entries => anyEntryZero entries
  | struct fields => anyZero fields
  | variant value => value.hasZero
  | _ => false

/-- The same for some values. -/
def anyZero : List Value → Bool
  | [] => false
  | value :: values => value.hasZero || anyZero values

/-- The same for the entries of a dictionary. -/
def anyEntryZero : List (Value × Value) → Bool
  | [] => false
  | (key, value) :: entries => key.hasZero || value.hasZero || anyEntryZero entries

end

/-- An array of strings. -/
def strings (items : List String) : Value := array .string (items.map string)

/-- An array of whole numbers. -/
def int32s (items : List Int32) : Value := array .int32 (items.map int32)

/-- A dictionary of values of any type, by their names. -/
def properties (entries : List (String × Value)) : Value :=
  dict .string .variant (entries.map fun (name, value) => (string name, variant value))

/-- The string that a value is. -/
def string? : Value → Option String
  | string s => some s
  | _ => none

/-- The whole number that a value is. -/
def int32? : Value → Option Int32
  | int32 n => some n
  | _ => none

end Value

end VpnTray.Bus
