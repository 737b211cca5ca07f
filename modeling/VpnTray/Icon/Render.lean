import VpnTray.Icon.Outline
import VpnTray.Icon.Raster

/-!
# The icon

The icon in the tray is a square image of the shield, green while connected and grey
while disconnected.
-/

namespace VpnTray

/-- An image as the desktop takes it: its size, and four bytes for each pixel. -/
structure Icon where
  width : Int32
  height : Int32
  data : ByteArray

namespace Icon

/-- The length of the sides of the icon, in pixels. -/
def size : Nat := 256

/-- The scan lines of an icon with sides of the given length. -/
def scanLine (size : Nat) : Nat → ScanLine :=
  let body := toCanvas (Float.ofNat size) outline
  let inner := toCanvas (Float.ofNat size) innerOutline
  fun n => ⟨crossings body (samplePosition n), crossings inner (samplePosition n)⟩

/-- The shield in the given colours and with sides of the given length. -/
def draw (palette : Palette) (size : Nat) : Icon :=
  { width := .ofNat size
    height := .ofNat size
    data := ⟨(raster palette size (scanLine size)).toArray⟩ }

/-- The icon while connected. -/
def connected : Icon := draw connectedPalette size

/-- The icon while disconnected. -/
def disconnected : Icon := draw disconnectedPalette size

/-- The icon for a state of the connection. -/
def render : Bool → Icon
  | true => connected
  | false => disconnected

end Icon

end VpnTray
