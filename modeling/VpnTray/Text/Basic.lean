/-!
# Text

What the tray reads from files and other programs, and what it says to them, is
kept as the list of its characters, a `Text`. A fixed word written as a string
stands for its text.
-/

namespace VpnTray

/-- A text, as the list of its characters. -/
abbrev Text := List Char

/-- A string stands for its text. -/
instance : Coe String Text := ⟨String.toList⟩

/-- The number of bytes of a text. -/
def Text.byteSize (text : Text) : Nat := text.foldl (fun n c => n + c.utf8Size) 0

end VpnTray
