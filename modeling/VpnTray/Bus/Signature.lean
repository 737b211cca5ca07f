/-!
# Types of the bus

Every value on the bus has a type, which is written as a short text, its
*signature*: a letter for a basic type, and brackets and further letters for the
types made of others. The body of a message is a row of values; its signature is
that of the value if there is one, in parentheses if there are more, and empty if
there is none.
-/

namespace VpnTray.Bus

/-- A type without parts. -/
inductive Basic
  | byte
  | boolean
  | int16
  | uint16
  | int32
  | uint32
  | int64
  | uint64
  | double
  | string
  | objectPath
  | signature
  | handle
deriving DecidableEq, Repr

/-- The type of a value. -/
inductive Signature
  | basic (type : Basic)
  | variant
  | array (element : Signature)
  | dict (key value : Signature)
  | struct (fields : List Signature)
deriving Repr

namespace Signature

abbrev byte : Signature := .basic .byte
abbrev boolean : Signature := .basic .boolean
abbrev int16 : Signature := .basic .int16
abbrev uint16 : Signature := .basic .uint16
abbrev int32 : Signature := .basic .int32
abbrev uint32 : Signature := .basic .uint32
abbrev int64 : Signature := .basic .int64
abbrev uint64 : Signature := .basic .uint64
abbrev double : Signature := .basic .double
abbrev string : Signature := .basic .string
abbrev objectPath : Signature := .basic .objectPath
abbrev signature : Signature := .basic .signature

mutual

/-- Whether two types are the same. -/
def decEq : (a b : Signature) → Decidable (a = b)
  | basic a, basic b => decidable_of_iff (a = b) (by simp)
  | variant, variant => isTrue rfl
  | array a, array b =>
    match decEq a b with
    | isTrue h => isTrue (by rw [h])
    | isFalse h => isFalse fun heq => h (array.inj heq)
  | dict k a, dict l b =>
    match decEq k l, decEq a b with
    | isTrue hkey, isTrue hvalue => isTrue (by rw [hkey, hvalue])
    | isFalse hkey, _ => isFalse fun heq => hkey (dict.inj heq).1
    | _, isFalse hvalue => isFalse fun heq => hvalue (dict.inj heq).2
  | struct a, struct b =>
    match decEqList a b with
    | isTrue h => isTrue (by rw [h])
    | isFalse h => isFalse fun heq => h (struct.inj heq)
  | basic _, variant | basic _, array _ | basic _, dict _ _ | basic _, struct _
  | variant, basic _ | variant, array _ | variant, dict _ _ | variant, struct _
  | array _, basic _ | array _, variant | array _, dict _ _ | array _, struct _
  | dict _ _, basic _ | dict _ _, variant | dict _ _, array _ | dict _ _, struct _
  | struct _, basic _ | struct _, variant | struct _, array _ | struct _, dict _ _ =>
    isFalse nofun

/-- Whether two rows of types are the same. -/
def decEqList : (a b : List Signature) → Decidable (a = b)
  | [], [] => isTrue rfl
  | a :: as, b :: bs =>
    match decEq a b, decEqList as bs with
    | isTrue hhead, isTrue htail => isTrue (by rw [hhead, htail])
    | isFalse hhead, _ => isFalse fun heq => hhead (List.cons.inj heq).1
    | _, isFalse htail => isFalse fun heq => htail (List.cons.inj heq).2
  | [], _ :: _ | _ :: _, [] => isFalse nofun

end

instance : DecidableEq Signature := decEq

end Signature

/-- The letter of a basic type. -/
def Basic.letter : Basic → Char
  | .byte => 'y'
  | .boolean => 'b'
  | .int16 => 'n'
  | .uint16 => 'q'
  | .int32 => 'i'
  | .uint32 => 'u'
  | .int64 => 'x'
  | .uint64 => 't'
  | .double => 'd'
  | .string => 's'
  | .objectPath => 'o'
  | .signature => 'g'
  | .handle => 'h'

mutual

/-- The text of a type. -/
def Signature.text : Signature → String
  | .basic type => .singleton type.letter
  | .variant => "v"
  | .array element => "a" ++ element.text
  | .dict key value => "a\x7b" ++ key.text ++ value.text ++ "\x7d"
  | .struct fields => "(" ++ textOfList fields ++ ")"

/-- The texts of some types in a row. -/
def textOfList : List Signature → String
  | [] => ""
  | type :: types => type.text ++ textOfList types

end

/-- The basic types. -/
def Basic.all : List Basic := [.byte, .boolean, .int16, .uint16, .int32, .uint32, .int64, .uint64,
  .double, .string, .objectPath, .signature, .handle]

mutual

/-- Reads the type that a text begins with; `depth` bounds how deep types are nested. -/
def readType : (depth : Nat) → List Char → Option (Signature × List Char)
  | 0, _ | _, [] => none
  | depth + 1, 'a' :: '\x7b' :: cs => do
    let (key, cs) ← readType depth cs
    let (value, '\x7d' :: cs) ← readType depth cs | none
    return (.dict key value, cs)
  | depth + 1, 'a' :: cs => do
    let (element, cs) ← readType depth cs
    return (.array element, cs)
  | depth + 1, '(' :: cs => do
    let (fields, cs) ← readFields depth cs
    return (.struct fields, cs)
  | _ + 1, 'v' :: cs => some (.variant, cs)
  | _ + 1, c :: cs => (Basic.all.find? (·.letter = c)).map (.basic ·, cs)

/-- Reads the types in parentheses, up to the closing one. -/
def readFields : (depth : Nat) → List Char → Option (List Signature × List Char)
  | 0, _ => none
  | _ + 1, ')' :: cs => some ([], cs)
  | depth + 1, cs => do
    let (field, cs) ← readType depth cs
    let (fields, cs) ← readFields depth cs
    return (field :: fields, cs)

end

/-- Reads the types in a row that a whole text stands for; `count` bounds how many there
    are and how deep they are nested. -/
def readRow : (count : Nat) → List Char → Option (List Signature)
  | _, [] => some []
  | 0, _ => none
  | count + 1, cs => do
    let (type, cs) ← readType (count + 1) cs
    return type :: (← readRow count cs)

/-- The types in a row that a text stands for. There are no more of them than the text is
    long, and nesting goes no deeper. -/
def typesOfText? (text : String) : Option (List Signature) := readRow (text.length + 1) text.toList

/-- The type that a text stands for. -/
def Signature.ofText? (text : String) : Option Signature :=
  match typesOfText? text with
  | some [type] => some type
  | _ => none

/-- The signature of a body with values of the given types. -/
def bodyText : List Signature → String
  | [] => ""
  | [type] => type.text
  | types => (Signature.struct types).text

end VpnTray.Bus
