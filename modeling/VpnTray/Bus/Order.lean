import VpnTray.Bus.Value

/-!
# The order of keys

The keys of a dictionary are in an order, by which it is seen which of them are equal.

Values of one kind are in their natural order, and rows of values are compared from
their first elements on, a shorter row being less than one that goes on. Values of
different kinds are in the order of their kinds (`Value.rank`). For types that order is
coarse: it only counts the fields of structs, and two types that are not made alike are
equal.

* `Signature.order`: how two types compare;
* `Value.order`: how two values compare.
-/

namespace VpnTray.Bus

mutual

/-- How two types compare as keys: by the numbers of fields of the structs in them, from
    the outside in, and as equal where they are not made alike. -/
def Signature.order : Signature → Signature → Ordering
  | .array a, .array b => a.order b
  | .dict k a, .dict l b => (k.order l).then (a.order b)
  | .struct as, .struct bs => orderTypes as bs
  | _, _ => .eq

/-- How the fields of two structs compare: by the first ones that are not equal, or by
    their number. -/
def orderTypes : List Signature → List Signature → Ordering
  | [], [] => .eq
  | [], _ :: _ => .lt
  | _ :: _, [] => .gt
  | a :: as, b :: bs => (a.order b).then (orderTypes as bs)

end

/-- The type that a row of types counts as: none if it is empty, and a struct if it has
    more than one. -/
def typeOfRow? : List Signature → Option Signature
  | [] => none
  | [type] => some type
  | types => some (.struct types)

/-- How two things compare that are in an order: those of which neither is less are equal,
    as the two zeros of floating point are. -/
def orderBy {α : Type} (less : α → α → Bool) (a b : α) : Ordering :=
  if less a b then .lt else if less b a then .gt else .eq

/-- How two rows of bytes compare. -/
def orderBytes : List UInt8 → List UInt8 → Ordering
  | [], [] => .eq
  | [], _ :: _ => .lt
  | _ :: _, [] => .gt
  | a :: as, b :: bs => (orderBy (· < ·) a b).then (orderBytes as bs)

/-- How an array of bytes compares with an array of `count` values of another type, to
    which a byte is always less. -/
def orderBytesWith (data : ByteArray) (element : Signature) (count : Nat) : Ordering :=
  if count = 0 then if data.isEmpty then Signature.byte.order element else .gt else .lt

namespace Value

/-- The place of a value's kind in the order of the kinds. -/
def rank : Value → Nat
  | byte _ => 0
  | boolean _ => 1
  | int16 _ => 2
  | uint16 _ => 3
  | int32 _ => 4
  | uint32 _ => 5
  | int64 _ => 6
  | uint64 _ => 7
  | double _ => 8
  | string _ => 9
  | signature _ => 10
  | objectPath _ => 11
  | variant _ => 12
  | bytes _ | array _ _ => 13
  | dict _ _ _ => 14
  | struct _ => 15

mutual

/-- How two values compare as keys. What they hold comes first, and then its type. -/
def order : Value → Value → Ordering
  | byte a, byte b => orderBy (· < ·) a b
  | boolean a, boolean b => orderBy (!· && ·) a b
  | int16 a, int16 b => orderBy (· < ·) a b
  | uint16 a, uint16 b => orderBy (· < ·) a b
  | int32 a, int32 b => orderBy (· < ·) a b
  | uint32 a, uint32 b => orderBy (· < ·) a b
  | int64 a, int64 b => orderBy (· < ·) a b
  | uint64 a, uint64 b => orderBy (· < ·) a b
  | double a, double b => orderBy (· < ·) a b
  | string a, string b => orderBy (· < ·) a b
  | objectPath a, objectPath b => orderBy (· < ·) a b
  | signature as, signature bs =>
    match typeOfRow? as, typeOfRow? bs with
    | some a, some b => a.order b
    | _, _ => .eq
  | variant a, variant b => a.order b
  | bytes a, bytes b => orderBytes a.toList b.toList
  | bytes a, array element items => orderBytesWith a element items.length
  | array element items, bytes b => (orderBytesWith b element items.length).swap
  | array s as, array t bs => (orderItems as bs).then (s.order t)
  | dict k s as, dict l t bs => (orderEntries as bs).then ((k.order l).then (s.order t))
  | struct as, struct bs => (orderItems as bs).then (orderTypes (types as) (types bs))
  | a, b => orderBy (· < ·) a.rank b.rank

/-- How two rows of values compare. -/
def orderItems : List Value → List Value → Ordering
  | [], [] => .eq
  | [], _ :: _ => .lt
  | _ :: _, [] => .gt
  | a :: as, b :: bs => (a.order b).then (orderItems as bs)

/-- How the entries of two dictionaries compare. -/
def orderEntries : List (Value × Value) → List (Value × Value) → Ordering
  | [], [] => .eq
  | [], _ :: _ => .lt
  | _ :: _, [] => .gt
  | (k, a) :: as, (l, b) :: bs => (k.order l).then ((a.order b).then (orderEntries as bs))

end

end Value

end VpnTray.Bus
