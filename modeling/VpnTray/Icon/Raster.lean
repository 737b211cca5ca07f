import VpnTray.Icon.Polygon

/-!
# Pixels

A pixel is sampled at four points, two on each of two scan lines. A sample is empty
or has an opaque colour: that of the inner part where the inner part is, that of the
body elsewhere in the body. The pixel is the average of its samples in each channel,
rounded, so that its colours are weighted by its alpha already.

The positions at which the scan lines enter and leave the two parts are given; what
is made of them does not depend on where they come from.
-/

namespace VpnTray.Icon

/-- An opaque colour. -/
structure Color where
  red : UInt8
  green : UInt8
  blue : UInt8
deriving DecidableEq, Repr

/-- The colours of the two parts of the icon. -/
structure Palette where
  body : Color
  inner : Color
deriving DecidableEq, Repr

/-- The colours of the icon while connected. -/
def connectedPalette : Palette := ⟨⟨0x1f, 0xa8, 0x5a⟩, ⟨0xe6, 0xf7, 0xec⟩⟩

/-- The colours of the icon while disconnected. -/
def disconnectedPalette : Palette := ⟨⟨0x6b, 0x72, 0x80⟩, ⟨0xf0, 0xf1, 0xf3⟩⟩

/-- A scan line: its crossings with the body and with the inner part. -/
structure ScanLine where
  body : Array Float
  inner : Array Float

/-- The samples of a pixel along each side. -/
def samplesPerSide : Nat := 2

/-- Where a sample lies along a side, in pixels. -/
def samplePosition (n : Nat) : Float := (Float.ofNat n + 0.5) / Float.ofNat samplesPerSide

/-- The colour of a scan line at a position, if there is any. -/
def ScanLine.color? (line : ScanLine) (palette : Palette) (x : Float) : Option Color :=
  if line.body.isEmpty then none
  else if inside line.inner x then some palette.inner
  else if inside line.body x then some palette.body
  else none

/-- The samples of the pixel in a column, on the scan lines of its row. -/
def samples (palette : Palette) (lines : List ScanLine) (column : Nat) : List (Option Color) :=
  lines.flatMap fun line =>
    (List.range samplesPerSide).map fun n =>
      line.color? palette (samplePosition (column * samplesPerSide + n))

/-- What a sample adds to a channel; an empty one adds nothing. -/
def level (channel : Color → UInt8) (sample : Option Color) : Nat :=
  sample.elim 0 fun color => (channel color).toNat

/-- The rounded average of a channel. -/
def average (channel : Color → UInt8) (samples : List (Option Color)) : UInt8 :=
  let sum := samples.foldl (· + level channel ·) 0
  let count := samplesPerSide * samplesPerSide
  .ofNat ((sum + count / 2) / count)

/-- The bytes of a pixel: alpha, red, green and blue. -/
def pixel (samples : List (Option Color)) : List UInt8 :=
  [average (fun _ => 255) samples, average (·.red) samples, average (·.green) samples,
    average (·.blue) samples]

/-- The bytes of a row of pixels. -/
def row (palette : Palette) (size : Nat) (lines : List ScanLine) : List UInt8 :=
  (List.range size).flatMap fun column => pixel (samples palette lines column)

/-- The bytes of a square image, row by row; `scan` gives the scan lines by their numbers. -/
def raster (palette : Palette) (size : Nat) (scan : Nat → ScanLine) : List UInt8 :=
  (List.range size).flatMap fun y =>
    row palette size <| (List.range samplesPerSide).map fun n => scan (y * samplesPerSide + n)

end VpnTray.Icon
