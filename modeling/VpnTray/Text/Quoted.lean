import VpnTray.Text.Invisible

/-!
# Quoted text

A text quoted in a message stands between double quotes. Quotes, backslashes and
the common controls are written with a backslash, and whatever would not be
visible by its code point, as in `\u{200b}`.
-/

namespace VpnTray.Text

/-- A character as it stands between quotes. -/
def quotedChar (c : Char) : List Char :=
  if c = '\x00' then ['\\', '0']
  else if c = '\t' then ['\\', 't']
  else if c = '\n' then ['\\', 'n']
  else if c = '\r' then ['\\', 'r']
  else if c = '"' || c = '\\' then ['\\', c]
  else if isInvisible c then ['\\', 'u', '\x7b'] ++ Nat.toDigits 16 c.toNat ++ ['\x7d']
  else [c]

/-- The text between double quotes. -/
def quoted (cs : List Char) : List Char := '"' :: cs.flatMap quotedChar ++ ['"']

end VpnTray.Text
