import VpnTray.Bus.Fault
import VpnTray.Bus.Menu

/-!
# Messages

Programs on the bus send each other messages: calls, the replies and errors that
answer them, and signals. Each message has a number, and an answer names the number of
the call that it answers.
-/

namespace VpnTray.Bus

/-- What a message is. -/
inductive MessageType
  | call
  | reply
  | error
  | signal
deriving DecidableEq, Repr

/-- A message. -/
structure Message where
  type : MessageType := .call
  /-- The number of the message. -/
  serial : UInt32 := 0
  /-- The number of the call that an answer is for. -/
  replyTo : Option UInt32 := none
  /-- The object that is called, or that sends a signal. -/
  path : Option String := none
  interface : Option String := none
  /-- The method that is called, or the signal that is sent. -/
  member : Option String := none
  /-- The kind of an error. -/
  errorName : Option String := none
  body : List Value := []

/-- The values that a body holds as arguments. A record of several values that is all of
    a body counts as these values. -/
def arguments : List Value → List Value
  | [.struct (first :: second :: rest)] => first :: second :: rest
  | body => body

/-- The signature of a body. -/
def bodySignature (body : List Value) : String := bodyText (Value.types body)

/-- The outcome of a call that could be answered. -/
inductive Reply
  | empty
  | value (value : Value)
  | properties (entries : List (String × Value))
  | document (xml : String)
  | layout (revision : UInt32) (layout : Menu.Layout)
  | group (items : List (Int32 × List (String × Value)))
  | ids (ids : List Int32)
  | flag (b : Bool)
  | idLists (updates errors : List Int32)

/-- What a reply carries. -/
def Reply.body : Reply → List Value
  | .empty => []
  | .value v => [.variant v]
  | .properties entries => [.properties entries]
  | .document xml => [.string xml]
  | .layout revision root => [.uint32 revision, layoutValue root]
  | .group items =>
    [.array groupType (items.map fun (id, entries) => .struct [.int32 id, .properties entries])]
  | .ids failed => [.int32s failed]
  | .flag b => [.boolean b]
  | .idLists updates errors => [.int32s updates, .int32s errors]

/-- The answer to a call. -/
def Message.answer (call : Message) : Except Fault Reply → Message
  | .ok reply => { type := .reply, replyTo := some call.serial, body := reply.body }
  | .error fault =>
    { type := .error
      replyTo := some call.serial
      errorName := some fault.name
      body := [.string fault.message] }

end VpnTray.Bus
