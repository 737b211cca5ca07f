import Mathlib.Data.List.Forall2
import Mathlib.Data.List.ReduceOption
import VpnTray.Bus.Presence
import VpnTray.Proofs.Stepped

/-!
# Service of a session

A session does two things at once, and neither of them ends before the connection does.

* It serves what comes in. Every call gets one answer, a reply or an error, in the order in which
  the calls come in, and other messages get nothing and do nothing (`serve_eq`). The loss of the
  connection is reported once, after the last answer.
* It sends the signals of the tray on. What has been sent, followed by what is still queued, is
  what has ever been queued, in its order (`exists_sent_of_turns`).

Others may change the tray while a call is answered, and signals may be queued and sent on as it
happens. None of that makes a difference here (`faithful`).
-/

namespace VpnTray.Bus

/-! ## What comes in -/

/-- The calls that come in, up to the first message that cannot be read. -/
def calls (stream : List (Option Message)) : List Message :=
  (stream.takeWhile Option.isSome).reduceOption.filter (·.type = .call)

/-- The answer to a call. -/
def reply (message : Message) : Stepped Tray Message := message.answer <$> (route message).run

/-- A message answers a call: it is a reply to that call, or an error. -/
structure Answers (message answer : Message) : Prop where
  replyTo : answer.replyTo = some message.serial
  type : answer.type = .reply ∨ answer.type = .error

/-! ## What is sent on -/

/-- A message announces what a signal of the tray tells. -/
inductive Announces : Signal → Message → Prop
  | newIcon : Announces .newIcon
    { type := .signal
      path := some "/StatusNotifierItem"
      interface := some "org.kde.StatusNotifierItem"
      member := some "NewIcon" }
  | newToolTip : Announces .newToolTip
    { type := .signal
      path := some "/StatusNotifierItem"
      interface := some "org.kde.StatusNotifierItem"
      member := some "NewToolTip" }
  | layoutUpdated (revision : UInt32) (parent : Int32) : Announces (.layoutUpdated revision parent)
    { type := .signal
      path := some "/MenuBar"
      interface := some "com.canonical.dbusmenu"
      member := some "LayoutUpdated"
      body := [.uint32 revision, .int32 parent] }

/-- What happens to the queue: the tray queues a signal, or the session sends all of them on. -/
inductive Turn
  | queue (signal : Signal)
  | flush

/-- The signals that are queued in some turns. -/
def queued : List Turn → List Signal
  | [] => []
  | .queue signal :: turns => signal :: queued turns
  | .flush :: turns => queued turns

/-- The presence after some turns, and what has been sent in them. -/
def Presence.turns (presence : Presence) : List Turn → List Message × Presence
  | [] => ([], presence)
  | .queue signal :: rest =>
    { presence with tray := ((Tray.send signal).run presence.tray).2 }.turns rest
  | .flush :: rest =>
    let (messages, presence) := presence.flush
    let (more, presence) := presence.turns rest
    (messages ++ more, presence)

/-- What is true of the service of a session, whatever comes in and whatever is queued. -/
structure Faithful (stream : List (Option Message)) (presence : Presence) : Prop where
  /-- The calls are answered one after the other, and then the connection is lost. -/
  served : serve stream =
    (fun answers => answers.map Event.sent ++ [.lost]) <$> (calls stream).mapM reply
  /-- Whatever others do in between, every call has one answer, and has it in its place. -/
  answered : ∀ (others : Nat → Tray → Tray) (moment : Nat × Tray), ∃ answers,
    ((serve stream).runAmid others moment).1 = answers.map .sent ++ [.lost] ∧
      List.Forall₂ Answers (calls stream) answers
  /-- Another message makes no difference: nothing is sent, and nothing is done. -/
  ignored : ∀ before message after, stream = before ++ some message :: after →
    message.type ≠ .call → serve stream = serve (before ++ after)
  /-- Nothing is read after a message that cannot be read. -/
  unread : ∀ before after, stream = before ++ none :: after → serve stream = serve before
  /-- Every signal that was queued has been sent on, once and in its place, or still waits. -/
  forwarded : ∀ (queue : List Signal) (turns : List Turn), presence.session.isSome →
    presence.tray.signals = some queue → ∃ sent waiting,
      queue ++ queued turns = sent ++ waiting ∧
        List.Forall₂ Announces sent (presence.turns turns).1 ∧
        (presence.turns turns).2.tray.signals = some waiting
  /-- When the signals have been sent on, none waits. -/
  flushed : ∀ queue : List Signal, presence.session.isSome →
    presence.tray.signals = some queue →
      List.Forall₂ Announces queue presence.flush.1 ∧
        presence.flush.2.tray.signals = some []

variable {stream : List (Option Message)} {message : Message} {presence : Presence}
  {queue : List Signal}

/-! ## Answers -/

theorem calls_cons_of_call (h : message.type = .call) :
    calls (some message :: stream) = message :: calls stream :=
  List.filter_cons_of_pos (decide_eq_true h)

theorem calls_cons_of_ne (h : message.type ≠ .call) :
    calls (some message :: stream) = calls stream :=
  List.filter_cons_of_neg (by simpa using h)

/-- Messages that are not calls leave no trace among the calls. -/
theorem calls_append_cons_of_ne (before after : List (Option Message)) (h : message.type ≠ .call) :
    calls (before ++ some message :: after) = calls (before ++ after) := by
  induction before with
  | nil => exact calls_cons_of_ne h
  | cons first? before ih =>
    cases first? with
    | none => rfl
    | some first =>
      by_cases hfirst : first.type = .call
      · rw [List.cons_append, List.cons_append, calls_cons_of_call hfirst,
          calls_cons_of_call hfirst, ih]
      · rw [List.cons_append, List.cons_append, calls_cons_of_ne hfirst, calls_cons_of_ne hfirst,
          ih]

/-- What comes after a message that cannot be read is no call. -/
theorem calls_append_cons_none (before after : List (Option Message)) :
    calls (before ++ none :: after) = calls before := by
  induction before with
  | nil => rfl
  | cons first? before ih =>
    cases first? with
    | none => rfl
    | some first =>
      by_cases hfirst : first.type = .call
      · rw [List.cons_append, calls_cons_of_call hfirst, calls_cons_of_call hfirst, ih]
      · rw [List.cons_append, calls_cons_of_ne hfirst, calls_cons_of_ne hfirst, ih]

theorem respond_of_call (h : message.type = .call) : respond message = some <$> reply message := by
  rw [respond, if_pos h, reply, Functor.map_map, map_eq_pure_bind]

theorem respond_of_ne (h : message.type ≠ .call) : respond message = pure none :=
  if_neg h

/-- Serving is answering the calls, and reporting the loss. -/
theorem serve_eq (stream : List (Option Message)) :
    serve stream =
      (fun answers => answers.map Event.sent ++ [.lost]) <$> (calls stream).mapM reply := by
  induction stream with
  | nil => rfl
  | cons message? stream ih =>
    cases message? with
    | none => rfl
    | some message =>
      rw [serve, ih]
      by_cases hcall : message.type = .call
      · rw [respond_of_call hcall, calls_cons_of_call hcall, List.mapM_cons]
        simp
      · rw [respond_of_ne hcall, calls_cons_of_ne hcall]
        simp

theorem serve_congr {stream' : List (Option Message)} (h : calls stream = calls stream') :
    serve stream = serve stream' := by
  rw [serve_eq, serve_eq, h]

theorem answers_runAmid_reply (others : Nat → Tray → Tray) (message : Message)
    (moment : Nat × Tray) :
    Answers message ((reply message).runAmid others moment).1 := by
  rw [reply, map_eq_pure_bind, Stepped.runAmid_bind, Stepped.runAmid_pure]
  cases ((route message).run.runAmid others moment).1 with
  | ok _ => exact ⟨rfl, .inl rfl⟩
  | error _ => exact ⟨rfl, .inr rfl⟩

theorem answers_runAmid_mapM (others : Nat → Tray → Tray) (messages : List Message)
    (moment : Nat × Tray) :
    List.Forall₂ Answers messages ((messages.mapM reply).runAmid others moment).1 := by
  induction messages generalizing moment with
  | nil => exact .nil
  | cons message messages ih =>
    simp only [List.mapM_cons, Stepped.runAmid_bind, Stepped.runAmid_pure]
    exact .cons (answers_runAmid_reply others message moment) (ih _)

/-! ## Signals -/

theorem announces_signalMessage (signal : Signal) : Announces signal (signalMessage signal) := by
  cases signal with
  | newIcon => exact .newIcon
  | newToolTip => exact .newToolTip
  | layoutUpdated revision parent => exact .layoutUpdated revision parent

theorem announces_map_signalMessage (signals : List Signal) :
    List.Forall₂ Announces signals (signals.map signalMessage) := by
  rw [List.forall₂_map_right_iff]
  exact List.forall₂_same.2 fun signal _ => announces_signalMessage signal

theorem flush_eq (hsession : presence.session.isSome) (hqueue : presence.tray.signals = some queue) :
    presence.flush = (queue.map signalMessage,
      { presence with tray := { presence.tray with signals := some [] } }) := by
  rw [Presence.flush, if_pos hsession, hqueue]
  rfl

/-- What has been sent, followed by what still waits, is what has been queued. -/
theorem exists_sent_of_turns (presence : Presence) (queue : List Signal) (turns : List Turn)
    (hsession : presence.session.isSome) (hqueue : presence.tray.signals = some queue) : ∃ sent waiting,
      queue ++ queued turns = sent ++ waiting ∧
        List.Forall₂ Announces sent (presence.turns turns).1 ∧
        (presence.turns turns).2.tray.signals = some waiting := by
  induction turns generalizing presence queue with
  | nil => exact ⟨[], queue, List.append_nil queue, .nil, hqueue⟩
  | cons turn turns ih =>
    cases turn with
    | queue signal =>
      -- The signal waits behind those that are queued already.
      have hsend : ((Tray.send signal).run presence.tray).2.signals = some (queue ++ [signal]) :=
        congrArg (Option.map (· ++ [signal])) hqueue
      obtain ⟨sent, waiting, heq, hsent, hwaiting⟩ :=
        ih { presence with tray := ((Tray.send signal).run presence.tray).2 } (queue ++ [signal])
          hsession hsend
      exact ⟨sent, waiting, by rw [← heq, List.append_assoc]; rfl, hsent, hwaiting⟩
    | flush =>
      -- All that waited is sent, and what comes later waits in an empty queue.
      rw [Presence.turns, flush_eq hsession hqueue]
      obtain ⟨sent, waiting, heq, hsent, hwaiting⟩ :=
        ih { presence with tray := { presence.tray with signals := some [] } } [] hsession rfl
      refine ⟨queue ++ sent, waiting, ?_, ?_, hwaiting⟩
      · rw [List.append_assoc, ← heq]
        rfl
      · exact List.rel_append (announces_map_signalMessage queue) hsent

/-! ## Both -/

/-- Every call is answered once and every signal is sent on once, whatever happens meanwhile. -/
theorem faithful (stream : List (Option Message)) (presence : Presence) :
    Faithful stream presence where
  served := serve_eq stream
  answered others moment := by
    refine ⟨_, ?_, answers_runAmid_mapM others (calls stream) moment⟩
    rw [serve_eq, map_eq_pure_bind, Stepped.runAmid_bind, Stepped.runAmid_pure]
  ignored := by
    rintro before message after rfl hmessage
    exact serve_congr (calls_append_cons_of_ne before after hmessage)
  unread := by
    rintro before after rfl
    exact serve_congr (calls_append_cons_none before after)
  forwarded queue turns hsession hqueue := exists_sent_of_turns presence queue turns hsession hqueue
  flushed queue hsession hqueue := by
    rw [flush_eq hsession hqueue]
    exact ⟨announces_map_signalMessage queue, rfl⟩

end VpnTray.Bus
