import VpnTray.Bus.Session

/-!
# Presence on the bus

The tray appears on the bus with a session, is served there, and leaves again. The
signals of the tray go to the first session only: when it ends, or could not begin,
nobody receives them any more. When the bus closes the connection, the session is
still held: nothing comes in any more and the name is not given back, but signals are
sent on.

* `Presence.appear`, `Presence.leave`: the beginning and the end of a session;
* `Presence.receive`, `Presence.flush`: what is answered and what is sent meanwhile;
* `Presence.lose`: the bus closes the connection.
-/

namespace VpnTray.Bus

/-- The tray, its session on the bus, if there is one, and whether the bus has closed the
    connection. -/
structure Presence where
  tray : Tray := {}
  session : Option Session := none
  closed : Bool := false

namespace Presence

/-- The presence with nobody left who receives signals. -/
def deaf (presence : Presence) : Presence :=
  { presence with tray := { presence.tray with signals := none } }

/-- There is a session, and the bus is there. -/
def isLive (presence : Presence) : Bool := presence.session.isSome && !presence.closed

/-- Begins a session, unless there is one. Without a bus there is no welcome. -/
def appear (pid : UInt32) (welcome : Option Welcome) (presence : Presence) :
    Except Error (List Message) × Presence :=
  match presence.session, welcome with
  | some _, _ => (.ok [], presence)
  | none, none => (.error .unreachableBus, presence.deaf)
  | none, some welcome =>
    let (messages, session) := Session.begin pid welcome
    (.ok messages, { presence with session := some session, closed := false })

/-- Ends the session, if there is one. -/
def leave (presence : Presence) : List Message × Presence :=
  match presence.session with
  | none => ([], presence)
  | some session =>
    (if presence.isLive then session.finish else [], { presence.deaf with session := none })

/-- Answers a message that comes in. -/
def receive (message : Message) (presence : Presence) : List Message × Presence :=
  if presence.isLive then
    let (answer, tray) := (respond message).run presence.tray
    (answer.toList, { presence with tray })
  else ([], presence)

/-- Sends the signals that are queued. -/
def flush (presence : Presence) : List Message × Presence :=
  if presence.session.isSome then
    ((presence.tray.signals.getD []).map signalMessage,
      { presence with tray :=
        { presence.tray with signals := presence.tray.signals.map fun _ => [] } })
  else ([], presence)

/-- The bus closes the connection, which is a loss if there is a session. -/
def lose (presence : Presence) : Bool × Presence :=
  (presence.isLive, { presence with closed := presence.closed || presence.isLive })

end Presence

end VpnTray.Bus
