import VpnTray.Text.Basic

/-!
# Text from bytes

Other programs print bytes, and files hold bytes; the tray works on text. A form
of UTF-8 is one byte, or a *leading* byte and one to three *continuation* bytes,
where the leading byte fixes the range of the byte right after it, which keeps
out overlong forms, surrogates and numbers beyond U+10FFFF.

Bytes that are no text come apart into *ill-formed parts*, each the longest
beginning of a form that was cut short, or else a single byte (`parts`).

* `decode?` refuses bytes with an ill-formed part: this is how files are read;
* `decodeLossy` shows each ill-formed part as U+FFFD: this is how the output of
  programs is read.
-/

namespace VpnTray.Text.Utf8

/-- A form begun but not finished: the bits collected so far, the range in which
    the next byte has to lie, and how many bytes have to follow that one. -/
structure Pending where
  bits : Nat
  low : UInt8 := 0x80
  high : UInt8 := 0xBF
  more : Nat

/-- What the first byte of a part does: it is a part by itself (a character, or
    ill-formed), or it begins a longer form. -/
inductive First where
  | alone (part : Option Char)
  | begins (pending : Pending)

/-- The role of a byte that begins a part. -/
def first (b : UInt8) : First :=
  if b < 0x80 then .alone (some (Char.ofNat b.toNat))
  else if b < 0xC2 then .alone none
  else if b < 0xE0 then .begins { bits := b.toNat - 0xC0, more := 0 }
  else if b = 0xE0 then .begins { bits := 0, low := 0xA0, more := 1 }
  else if b = 0xED then .begins { bits := 0xD, high := 0x9F, more := 1 }
  else if b < 0xF0 then .begins { bits := b.toNat - 0xE0, more := 1 }
  else if b = 0xF0 then .begins { bits := 0, low := 0x90, more := 2 }
  else if b < 0xF4 then .begins { bits := b.toNat - 0xF0, more := 2 }
  else if b = 0xF4 then .begins { bits := 4, high := 0x8F, more := 2 }
  else .alone none

/-- The parts of some bytes, after the form `pending` if one was begun: the
    characters, and `none` for each ill-formed part. -/
def partsFrom : Option Pending → List UInt8 → List (Option Char)
  | none, [] => []
  | some _, [] => [none]
  | none, b :: bytes =>
    match first b with
    | .alone part => part :: partsFrom none bytes
    | .begins pending => partsFrom (some pending) bytes
  | some p, b :: bytes =>
    if p.low ≤ b && b ≤ p.high then
      let bits := p.bits * 64 + (b.toNat - 0x80)
      match p.more with
      | 0 => some (Char.ofNat bits) :: partsFrom none bytes
      | more + 1 => partsFrom (some { bits, more }) bytes
    else
      match first b with
      | .alone part => none :: part :: partsFrom none bytes
      | .begins pending => none :: partsFrom (some pending) bytes

/-- The parts of some bytes. -/
def parts (bytes : ByteArray) : List (Option Char) := partsFrom none bytes.data.toList

/-- The text that the bytes encode, unless they have an ill-formed part. -/
def decode? (bytes : ByteArray) : Option (List Char) := (parts bytes).mapM id

/-- The text that the bytes encode, with U+FFFD for each ill-formed part. -/
def decodeLossy (bytes : ByteArray) : List Char := (parts bytes).map (·.getD '\uFFFD')

end VpnTray.Text.Utf8
