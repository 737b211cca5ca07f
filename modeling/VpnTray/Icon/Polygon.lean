/-!
# Polygons on scan lines

A polygon is filled line by line. The horizontal line at a height crosses an edge
when the ends of the edge lie on different sides of it, an end on the line itself
counting as above; from left to right, the crossings lead into the polygon and out
of it in turn. A position is inside when the number of crossings to its left is odd.

Coordinates may be of any type with arithmetic and an order: the icon is drawn with
floats.

* `crossings`: the crossings of a polygon with a line, from left to right;
* `inside`: whether a position on the line lies in the polygon.
-/

namespace VpnTray.Icon

/-- A point of the plane; `y` grows downwards. -/
structure Point (α : Type) where
  x : α
  y : α
deriving DecidableEq, Repr

variable {α : Type}

/-- The edges of a polygon, the last one leading back to the first point. -/
def edges (polygon : List (Point α)) : List (Point α × Point α) :=
  polygon.zip (polygon.drop 1 ++ polygon.take 1)

section Crossings

variable [Add α] [Sub α] [Mul α] [Div α] [LE α] [DecidableLE α]

/-- Where the line at height `y` crosses an edge, if it does. -/
@[specialize] def crossing? (y : α) (edge : Point α × Point α) : Option α :=
  let (a, b) := edge
  if (a.y ≤ y) ↔ (b.y ≤ y) then none
  else some (a.x + (y - a.y) * (b.x - a.x) / (b.y - a.y))

/-- Where the line at height `y` crosses a polygon, from left to right. -/
@[specialize] def crossings (polygon : List (Point α)) (y : α) : Array α :=
  ((edges polygon).filterMap (crossing? y)).mergeSort.toArray

end Crossings

section Inside

variable [LT α] [DecidableLT α]

/-- Searches for the first position in `xs` from `low` on, and below `high`, that is not
    to the left of `x`. -/
@[specialize] def searchLeft (xs : Array α) (x : α) (low high : Nat) (h : high ≤ xs.size) : Nat :=
  if hlt : low < high then
    let middle := (low + high) / 2
    have hmiddle : middle < high := by omega
    if xs[middle] < x then searchLeft xs x (middle + 1) high h
    else searchLeft xs x low middle (Nat.le_trans (Nat.le_of_lt hmiddle) h)
  else low
termination_by high - low

/-- How many of the ascending positions `xs` lie to the left of `x`. -/
@[specialize] def countLeft (xs : Array α) (x : α) : Nat :=
  searchLeft xs x 0 xs.size (Nat.le_refl _)

/-- The position `x` lies in the polygon with the given crossings. -/
@[specialize] def inside (crossings : Array α) (x : α) : Bool := countLeft crossings x % 2 = 1

end Inside

end VpnTray.Icon
