import VpnTray.Duration
import VpnTray.Icon.Render

/-!
# The state of the tray

Everything that the tray shows: whether the client is connected, the icon for that,
and the details listed in the menu. Each change that shows in the menu counts the
*revision* up, in the same step, so that a revision names one content of the menu.
A change to what is there already is none.

Each change gives the new revision, or `none` if nothing changed.
-/

namespace VpnTray

/-- What the tray shows. -/
structure State where
  /-- The client is connected. -/
  connected : Bool := false
  /-- The icon, which belongs to the state of the connection. -/
  icon : Icon := .render false
  /-- The revision of the menu. -/
  revision : UInt32 := 1
  /-- The name of the network, if it is known. -/
  network : Option String := none
  /-- When the connection came up, if there is one. -/
  connectedSince : Option Instant := none
  /-- The connection time as it was last shown, `none` right after connecting. -/
  connectionTime : Option String := none
  /-- The client is started with the system. -/
  autoConnect : Bool := false

namespace State

/-- The state with the next revision, and that revision. -/
def bump (s : State) : Option UInt32 × State :=
  let revision := s.revision + 1
  (some revision, { s with revision })

/-- Takes a new state of the connection, with its icon. The connection clock starts when
    the connection does. -/
def commit (now : Instant) (connected : Bool) (icon : Icon) (s : State) :
    Option UInt32 × State :=
  if s.connected = connected then (none, s)
  else
    bump { s with
      connected
      icon
      connectedSince := if connected then some now else none
      connectionTime := none }

/-- Takes the name of the network. -/
def setNetwork (network : Option String) (s : State) : Option UInt32 × State :=
  if s.network = network then (none, s) else bump { s with network }

/-- Takes whether the client is started with the system. -/
def setAutoConnect (enabled : Bool) (s : State) : Option UInt32 × State :=
  if s.autoConnect = enabled then (none, s) else bump { s with autoConnect := enabled }

/-- Takes a new connection time, unless there is no connection. -/
def setConnectionTime (elapsed : String) (s : State) : Option UInt32 × State :=
  if !s.connected || s.connectionTime = some elapsed then (none, s)
  else bump { s with connectionTime := some elapsed }

@[simp] theorem revision_bump (s : State) : (bump s).2.revision = s.revision + 1 := rfl

@[simp] theorem bump_fst (s : State) : (bump s).1 = some (s.revision + 1) := rfl

end State

end VpnTray
