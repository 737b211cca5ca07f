import VpnTray.Text.Lines

/-!
# Status and accounts

What the client prints of itself: whether it is connected, and a table of the
accounts, of which the first counts. A cell of the table that is missing or blank is
shown as a dash.
-/

namespace VpnTray

open Text

/-- The client reports that it is connected. -/
def isOnline (output : Text) : Bool := startsWith "online" (trim output)

/-- The system starts the client with itself, and reports nothing else than that. -/
def isEnabled (output : Text) : Bool := trim output = "enabled".toList

/-- What is shown for a value that is not there. -/
def dash : Text := "-"

/-- The cell of a row at a position, or a dash. -/
def cellOrDash (row : List Text) (position : Nat) : Text :=
  match row[position]? with
  | some cell => if cell.isEmpty then dash else cell
  | none => dash

/-- An account: the user, and the name and the address of the network. -/
structure Account where
  user : Text
  network : Text
  url : Text
deriving DecidableEq, Repr

namespace Account

/-- The account of which nothing is known. -/
def unknown : Account := ⟨dash, dash, dash⟩

/-- The account in a row. -/
def ofRow (row : List Text) : Account :=
  ⟨cellOrDash row 0, cellOrDash row 1, cellOrDash row 2⟩

/-- The first account of a table, which has one line of headings. -/
def ofTable? (output : Text) : Option Account :=
  (lines (trim output))[1]?.map fun line => ofRow (cells line)

end Account

end VpnTray
