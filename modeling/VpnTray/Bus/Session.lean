import VpnTray.Bus.Router

/-!
# The session

While the tray is shown, it is connected to the bus. It asks for a name of its own,
and tells the program that shows the items of all programs, the *watcher*, that its
item is there. It then answers every call, and sends every signal of the tray on.

* `Session.begin`: what is sent when the session begins, and the session;
* `serve`: what is done with the messages that come in;
* `signalMessage`: what is sent for a signal of the tray;
* `Session.finish`: what is sent when the session ends.
-/

namespace VpnTray.Bus

/-- The name that the process with a number asks for. -/
def busName (pid : UInt32) : String :=
  "org.kde.StatusNotifierItem-" ++ toString pid.toNat ++ "-1"

/-- How the bus answers when the session begins. -/
structure Welcome where
  /-- The code by which the bus answers the request for a name, if it answers. -/
  nameReply : Option UInt32
  /-- The watcher takes the item. -/
  watcher : Bool
  /-- The name that the bus itself gave to the connection. -/
  uniqueName : Option String

/-- A session. -/
structure Session where
  /-- The name that was asked for. -/
  busName : String
  /-- The name was given. -/
  ownsName : Bool
  /-- The name under which the watcher knows the item, if it does. -/
  registered : Option String
deriving DecidableEq, Repr

/-- A call to the bus itself. -/
def busCall (member : String) (body : List Value) : Message where
  path := some "/org/freedesktop/DBus"
  interface := some "org.freedesktop.DBus"
  member := some member
  body := body

/-- The call that tells the watcher about an item. -/
def registerItem (service : String) : Message where
  path := some "/StatusNotifierWatcher"
  interface := some "org.kde.StatusNotifierWatcher"
  member := some "RegisterStatusNotifierItem"
  body := [.string service]

namespace Session

/-- The answer to the request for a name by which the name is given. -/
def primaryOwner : UInt32 := 1

/-- The request for a name asks not to wait for it. -/
def doNotQueue : UInt32 := 4

/-- Begins a session. The watcher is told the name that was asked for if it was given,
    and the name that the bus gave otherwise. -/
def begin (pid : UInt32) (welcome : Welcome) : List Message × Session :=
  let busName := Bus.busName pid
  let ownsName := welcome.nameReply = some primaryOwner
  let service := if ownsName then some busName else welcome.uniqueName
  (busCall "RequestName" [.string busName, .uint32 doNotQueue] ::
      (service.map registerItem).toList,
    { busName
      ownsName
      registered := if welcome.watcher then service else none })

/-- Ends a session: a name that was given is given back. -/
def finish (session : Session) : List Message :=
  if session.ownsName then [busCall "ReleaseName" [.string session.busName]] else []

end Session

/-- What happens while messages are served: a message is sent, or the loss of the
    connection is reported. -/
inductive Event
  | sent (message : Message)
  | lost

/-- What is sent when a message comes in: the answer to a call, and nothing otherwise. -/
def respond (message : Message) : Stepped Tray (Option Message) := do
  if message.type = .call then
    let outcome ← (route message).run
    return some (message.answer outcome)
  else return none

/-- Serves the messages that come in, up to the first that cannot be read, which is
    `none`, or to the end. Then the connection is lost. -/
def serve : List (Option Message) → Stepped Tray (List Event)
  | [] | none :: _ => return [.lost]
  | some message :: stream => do
    let answer ← respond message
    return answer.toList.map .sent ++ (← serve stream)

/-- What is sent for a signal of the tray. -/
def signalMessage : Signal → Message
  | .newIcon => signal itemObject "NewIcon" []
  | .newToolTip => signal itemObject "NewToolTip" []
  | .layoutUpdated revision parent =>
    signal menuObject "LayoutUpdated" [.uint32 revision, .int32 parent]
where
  /-- A signal of an object. -/
  signal (object : Object Tray) (member : String) (body : List Value) : Message :=
    { type := .signal
      path := some object.path
      interface := some object.kind.interface.name
      member := some member
      body }

end VpnTray.Bus
