import VpnTray.Icon.Polygon

/-!
# The shield

The outline of the icon is a shield in a box of 448 by 512 units, drawn with lines
and quadratic curves. It is used twice: as the body of the icon and, made smaller
around a point near its middle, as its inner part. On the canvas the box is scaled
to fit between the margins, and centred.
-/

namespace VpnTray.Icon

/-- A part of an outline, from where the part before it ends. -/
inductive Segment
  | line (stop : Point Float)
  | curve (control stop : Point Float)

/-- Where the outline of the shield starts. -/
def shieldStart : Point Float := ⟨224.0, 0.0⟩

/-- The outline of the shield. -/
def shield : List Segment := [
  .curve ⟨328.0, 52.0⟩ ⟨448.0, 80.0⟩,
  .line ⟨448.0, 232.0⟩,
  .curve ⟨432.0, 424.0⟩ ⟨224.0, 512.0⟩,
  .curve ⟨16.0, 424.0⟩ ⟨0.0, 232.0⟩,
  .line ⟨0.0, 80.0⟩,
  .curve ⟨120.0, 52.0⟩ ⟨224.0, 0.0⟩,
  .line ⟨224.0, 0.0⟩]

/-- How many lines stand for a curve. -/
def curveSteps : Nat := 16

/-- The point of a curve after the share `t` of it. -/
def curvePoint (start control stop : Point Float) (t : Float) : Point Float :=
  let rest := 1.0 - t
  { x := rest * rest * start.x + 2.0 * rest * t * control.x + t * t * stop.x
    y := rest * rest * start.y + 2.0 * rest * t * control.y + t * t * stop.y }

/-- The points of an outline after its start, where a line to the same point adds none. -/
def flattenFrom (current : Point Float) : List Segment → List (Point Float)
  | [] => []
  | .line stop :: segments =>
    (if stop.x == current.x && stop.y == current.y then [] else [stop]) ++ flattenFrom stop segments
  | .curve control stop :: segments =>
    (List.range curveSteps).map (fun step =>
      curvePoint current control stop (Float.ofNat (step + 1) / Float.ofNat curveSteps)) ++
      flattenFrom stop segments

/-- The corners of the shield. -/
def outline : List (Point Float) := shieldStart :: flattenFrom shieldStart shield

/-- The scale of the inner part, and the point around which it is made smaller. -/
def innerScale : Float := 0.64

@[inherit_doc innerScale]
def innerCenter : Point Float := ⟨224.0, 236.0⟩

/-- The corners of the inner part. -/
def innerOutline : List (Point Float) :=
  outline.map fun p =>
    { x := innerCenter.x + (p.x - innerCenter.x) * innerScale
      y := innerCenter.y + (p.y - innerCenter.y) * innerScale }

/-- The size of the box of the outline. -/
def boxWidth : Float := 448.0

@[inherit_doc boxWidth]
def boxHeight : Float := 512.0

/-- The share of the canvas that is left empty at each side. -/
def margin : Float := 0.08

/-- The points of the box on a canvas whose sides have the given length. -/
def toCanvas (size : Float) (points : List (Point Float)) : List (Point Float) :=
  let padding := size * margin
  let available := size - 2.0 * padding
  let wide := available / boxWidth
  let high := available / boxHeight
  let scale := if wide ≤ high then wide else high
  let offsetX := (size - boxWidth * scale) / 2.0
  let offsetY := (size - boxHeight * scale) / 2.0
  points.map fun p => ⟨offsetX + p.x * scale, offsetY + p.y * scale⟩

end VpnTray.Icon
