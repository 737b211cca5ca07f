import VpnTray.Proofs.Bus.Conformance
import VpnTray.Proofs.Tray.Commands
import VpnTray.Proofs.Tray.Run

/-!
# What a message can do

A program on the bus can look at the tray, and it can ask for the commands of the menu. It
can do nothing else: whatever messages come in between the operations of the tray, its state
and its signals are what they would be without them.

* `trayAfterCall_of_fits`: what a call hands out is all that it does to the tray;
* `Asks`: the commands that a message asks for, and by what it asks for them;
* `contained_of_inputs`: what becomes of a tray that messages reach among its operations.
-/

namespace VpnTray.Bus

/-! ## Calls -/

/-- The commands that a method hands out. -/
def Method.commands (s : State) : Method → List Value → List Command
  | event, [.int32 id, .string kind, _, _] => Tray.commandsOf s [(id, kind)]
  | eventGroup, [.array _ events] => Tray.commandsOf s (eventsOf events)
  | aboutToShow, [.int32 id] => Tray.opening [id]
  | aboutToShowGroup, [.array _ ids] => Tray.opening (ids.filterMap Value.int32?)
  | _, _ => []

/-- The tray after a method of an object has been called. -/
def trayAfterCall (object : Object Tray) (method : Method) (arguments : List Value) (tray : Tray) :
    Tray :=
  ((call object method arguments).run.run tray).2

/-- The tray after a message. -/
def trayAfter (message : Message) (tray : Tray) : Tray := ((route message).run.run tray).2

variable {kind : ObjectKind} {method : Method} {message : Message} {tray : Tray}
  {values : List Value}

theorem tray_ofRegistry {α : Type} (read : Stepped Tray (Except PropertyError α)) (f : α → Reply)
    (tray : Tray) :
    ((ofRegistry read >>= fun a => pure (f a)).run.run tray).2 = (read.run tray).2 := by
  simp only [ofRegistry, bind_pure_comp, ExceptT.run_map, ExceptT.run_mk, Stepped.run_map]

theorem tray_get (kind : ObjectKind) (interface name : String) (tray : Tray) :
    ((kind.object.properties.get interface name).run tray).2 = tray :=
  (glance_get kind interface name).looks.run_snd tray

theorem tray_getAll (kind : ObjectKind) (interface : String) (tray : Tray) :
    ((kind.object.properties.getAll interface).run tray).2 = tray := by
  rw [properties_object]
  by_cases hinterface : interface = kind.interface.name
  · subst hinterface
    obtain ⟨values, hrun, -⟩ := Registry.run_getAll_ofList (entries_ne_nil kind)
      (nodup_entries kind) fun entry hentry => run_read_of_mem hentry tray
    rw [hrun]
  · rw [Registry.getAll_ofList_of_ne (entries_ne_nil kind) hinterface]
    rfl

/-- What a method hands out is all that it does to the tray. -/
theorem trayAfterCall_of_fits (h : Fits method values) (kind : ObjectKind) (tray : Tray) :
    trayAfterCall kind.object method values tray =
      tray.handOut (method.commands tray.state values) := by
  cases h with
  | introspect | ping =>
    rw [Method.commands, Tray.handOut_nil]
    · rfl
    all_goals nofun
  | activate | secondaryActivate | contextMenu | scroll => exact tray.handOut_nil.symm
  | set => exact tray.handOut_nil.symm
  | get interface name =>
    rw [trayAfterCall, call, tray_ofRegistry, tray_get]
    exact tray.handOut_nil.symm
  | getAll interface =>
    rw [trayAfterCall, call, tray_ofRegistry, tray_getAll]
    exact tray.handOut_nil.symm
  | getLayout parent depth names =>
    rw [trayAfterCall, call, run_look_bind]
    rcases Menu.layout? tray.state parent depth (names.filterMap Value.string?) with
      _ | ⟨revision, layout⟩
    · exact tray.handOut_nil.symm
    · exact tray.handOut_nil.symm
  | getGroupProperties ids names =>
    rw [trayAfterCall, call, run_look_bind]
    exact tray.handOut_nil.symm
  | getProperty id name =>
    rw [trayAfterCall, call, run_look_bind]
    exact tray.handOut_nil.symm
  | event id kind data time =>
    rw [trayAfterCall, call, discard_bind, run_liftM_bind, Tray.run_event, Method.commands,
      Tray.commandsOf_cons, Tray.commandsOf, List.filterMap_nil, List.append_nil]
    rfl
  | eventGroup events =>
    rw [trayAfterCall, call, run_liftM_bind, Tray.run_eventGroup]
    rfl
  | aboutToShow id =>
    rw [trayAfterCall, call, run_liftM_bind, Tray.run_aboutToShow]
    rfl
  | aboutToShowGroup ids =>
    rw [trayAfterCall, call, run_liftM_bind, Tray.run_aboutToShowGroup]
    rfl

/-- A method that can hand out commands. -/
def Method.Dispatches (method : Method) : Prop :=
  method ∈ [Method.event, .eventGroup, .aboutToShow, .aboutToShowGroup]

instance (method : Method) : Decidable method.Dispatches :=
  inferInstanceAs (Decidable (method ∈ _))

theorem Method.dispatches_of_commands {s : State} (h : method.commands s values ≠ []) :
    method.Dispatches := by
  cases method with
  | event | eventGroup | aboutToShow | aboutToShowGroup => decide
  | _ => exact absurd rfl h

/-! ## Messages -/

/-- A method gets to see the arguments of a message. -/
def Accepts (method : Method) (message : Message) : Prop :=
  method.ignoresBody = true ∨ Value.types (arguments message.body) = method.takes ∧
    Value.anyZero (arguments message.body) = false

theorem Accepts.fits (h : Accepts method message) : Fits method (arguments message.body) := by
  rcases h with hignores | ⟨htypes, -⟩
  · exact fits_of_ignoresBody hignores _
  · exact fits_of_types htypes

theorem Accepts.of_dispatches (h : Accepts method message) (hmethod : method.Dispatches) :
    Value.types (arguments message.body) = method.takes ∧
      Value.anyZero (arguments message.body) = false := by
  refine h.resolve_left fun hignores => ?_
  cases method with
  | introspect | ping => exact absurd hmethod (by decide)
  | _ => exact nomatch hignores

theorem get?_eq_some {path : String} {object : Object Tray}
    (h : trayObjects.get? path = some object) :
    ∃ kind : ObjectKind, path = kind.object.path ∧ object = kind.object := by
  by_cases hitem : path = itemObject.path
  · subst hitem
    exact ⟨.item, rfl, Option.some.inj (h.symm.trans (get?_path_object .item))⟩
  · by_cases hmenu : path = menuObject.path
    · subst hmenu
      exact ⟨.menu, rfl, Option.some.inj (h.symm.trans (get?_path_object .menu))⟩
    · rw [Objects.get?, trayObjects, Names.lookup_put_of_ne hitem,
        Names.lookup_put_of_ne hmenu] at h
      exact nomatch h

theorem finds_of_member? {member : String} (hpath : message.path = some kind.object.path)
    (hmember : message.member = some member)
    (h : kind.member? (message.interfaceOf kind) member = some (some method)) :
    ∃ declared, Finds kind message member declared method := by
  have htarget := target_of_member? hpath hmember h
  rw [member?_eq_find?] at h
  obtain ⟨declared, hdeclared, hmethod⟩ := Option.map_eq_some_iff.1 h
  have hinterface := List.find?_some hdeclared
  have hname := List.find?_some hmethod
  exact ⟨declared, List.mem_of_find?_eq_some hdeclared, List.mem_of_find?_eq_some hmethod,
    of_decide_eq_true hinterface, of_decide_eq_true hname, htarget⟩

/-- A message that finds a method names the object and the method. -/
theorem finds_of_target {object : Object Tray} (h : target message = .ok (object, method)) :
    ∃ kind declared, object = kind.object ∧ message.path = some kind.object.path ∧
      message.member = some method.name ∧ Finds kind message method.name declared method := by
  have htarget := h
  rw [target] at h
  rcases hpath : message.path with _ | path
  · rw [hpath] at h
    cases h
  rcases hobject : trayObjects.get? path with _ | found
  · simp only [hpath, hobject] at h
    cases h
  obtain ⟨kind, rfl, rfl⟩ := get?_eq_some hobject
  rcases hmember : message.member with _ | member
  · simp only [hpath, hobject, hmember] at h
    cases h
  rw [target_of_path hpath hmember] at htarget
  rcases hmethod : kind.member? (message.interfaceOf kind) member with _ | _ | found
  · rw [hmethod] at htarget
    cases htarget
  · rw [hmethod] at htarget
    cases htarget
  · rw [hmethod] at htarget
    obtain ⟨rfl, rfl⟩ := Prod.mk.inj (Except.ok.inj htarget)
    obtain ⟨declared, hfinds⟩ := finds_of_member? hpath hmember hmethod
    obtain rfl := hfinds.method_name
    exact ⟨kind, declared, rfl, rfl, rfl, hfinds⟩

/-- The methods that can hand out commands are all in the interface of the menu. -/
theorem menu_of_dispatches : ∀ declared ∈ kind.interfaces, ∀ method ∈ declared.methods,
    method.Dispatches → kind = .menu ∧ declared.name = menuInterface.name := by
  cases kind <;> decide

/-! ## The tray after a message -/

theorem trayAfter_of_error {fault : Fault} (h : target message = .error fault) :
    trayAfter message tray = tray := by
  rw [trayAfter, route, h]
  rfl

theorem trayAfter_of_accepts {object : Object Tray}
    (h : target message = .ok (object, method)) (haccepts : Accepts method message) :
    trayAfter message tray = trayAfterCall object method (arguments message.body) tray := by
  rw [trayAfter, run_route_of_target h]
  rcases haccepts with hignores | ⟨htypes, hzero⟩
  · rw [if_pos hignores]
    rfl
  · rw [if_neg (not_not_intro htypes), hzero, if_neg Bool.false_ne_true, ite_self]
    rfl

theorem trayAfter_of_not_accepts {object : Object Tray}
    (h : target message = .ok (object, method)) (haccepts : ¬Accepts method message) :
    trayAfter message tray = tray := by
  obtain ⟨hignores, hchecked⟩ := not_or.1 haccepts
  rw [trayAfter, run_route_of_target h]
  rw [if_neg hignores]
  split
  · rfl
  · next htypes =>
    have hzero : Value.anyZero (arguments message.body) = true := by
      rw [not_and] at hchecked
      exact eq_true_of_ne_false (hchecked (Decidable.not_not.1 htypes))
    rw [if_pos hzero]
    rfl

/-! ## What a message asks for -/

/-- A message tells of a click at an item. -/
inductive Message.Clicks (message : Message) (id : Int32) : Prop
  | event (data time : Value) (hmember : message.member = some "Event")
    (harguments : arguments message.body = [.int32 id, .string "clicked", data, time])
  | eventGroup (element : Signature) (events : List Value) (data time : Value)
    (hmember : message.member = some "EventGroup")
    (harguments : arguments message.body = [.array element events])
    (hevent : .struct [.int32 id, .string "clicked", data, time] ∈ events)

/-- A message tells that the menu of an item is going to be shown. -/
inductive Message.Opens (message : Message) (id : Int32) : Prop
  | aboutToShow (hmember : message.member = some "AboutToShow")
    (harguments : arguments message.body = [.int32 id])
  | aboutToShowGroup (element : Signature) (ids : List Value)
    (hmember : message.member = some "AboutToShowGroup")
    (harguments : arguments message.body = [.array element ids]) (hid : .int32 id ∈ ids)

/-- A command belongs to an item of the menu, which asks for it when it is clicked. -/
def BelongsTo (command : Command) (id : Int32) (s : State) : Prop :=
  ∃ tree action, Menu.menu.find? id = some tree ∧ tree.item.action = some action ∧
    action.command s = command

/-- A message asks the tray for some commands. -/
structure Asks (message : Message) (tray : Tray) (commands : List Command) : Prop where
  /-- The commands are handed out, and nothing else is changed. -/
  after : trayAfter message tray = tray.handOut commands
  /-- Only calls to the menu ask for commands, by their own methods and with the arguments
      that these take. -/
  call : commands ≠ [] → message.path = some "/MenuBar" ∧
    (message.interface = none ∨ message.interface = some "com.canonical.dbusmenu") ∧
    ∃ method ∈ [Method.event, .eventGroup, .aboutToShow, .aboutToShowGroup],
      message.member = some method.name ∧
        Value.types (arguments message.body) = method.inputTypes
  /-- A call that fails asks for nothing. -/
  fault : ∀ fault, answer message tray = .error fault → commands = []
  /-- A command belongs to an item that has been clicked, or is that the menu is opened. -/
  command : ∀ command ∈ commands, (∃ id, message.Clicks id ∧ BelongsTo command id tray.state) ∨
    command = .menuOpening ∧ message.Opens Menu.rootId

theorem asks_nothing (h : trayAfter message tray = tray) : Asks message tray [] where
  after := h.trans tray.handOut_nil.symm
  call h := absurd rfl h
  fault _ _ := rfl
  command := nofun

theorem mem_commandsOf {s : State} {events : List (Int32 × String)} {command : Command}
    (h : command ∈ Tray.commandsOf s events) :
    ∃ id, (id, "clicked") ∈ events ∧ BelongsTo command id s := by
  obtain ⟨⟨id, event⟩, hevent, hcommand⟩ := List.mem_filterMap.1 h
  rw [Menu.command?] at hcommand
  split at hcommand
  · exact nomatch hcommand
  · next hclicked =>
    obtain ⟨hclicked, -⟩ := not_or.1 hclicked
    obtain rfl : event = "clicked" := Decidable.not_not.1 hclicked
    obtain ⟨tree, htree, hcommand⟩ := Option.bind_eq_some_iff.1 hcommand
    obtain ⟨action, haction, hcommand⟩ := Option.map_eq_some_iff.1 hcommand
    exact ⟨id, hevent, tree, action, htree, haction, hcommand⟩

theorem mem_eventsOf {events : List Value} {id : Int32} {event : String}
    (h : (id, event) ∈ eventsOf events) :
    ∃ data time, .struct [.int32 id, .string event, data, time] ∈ events := by
  obtain ⟨value, hvalue, hevent⟩ := List.mem_filterMap.1 h
  split at hevent
  · obtain ⟨rfl, rfl⟩ := Prod.mk.inj (Option.some.inj hevent)
    exact ⟨_, _, hvalue⟩
  · exact nomatch hevent

theorem mem_opening {ids : List Int32} {command : Command} (h : command ∈ Tray.opening ids) :
    command = .menuOpening ∧ Menu.rootId ∈ ids := by
  rw [Tray.opening] at h
  split at h
  · next hroot => exact ⟨List.mem_singleton.1 h, hroot⟩
  · cases h

theorem int32_mem_of_mem_filterMap {ids : List Value} {id : Int32}
    (h : id ∈ ids.filterMap Value.int32?) : .int32 id ∈ ids := by
  obtain ⟨value, hvalue, hid⟩ := List.mem_filterMap.1 h
  cases value with
  | int32 n => rwa [← Option.some.inj hid]
  | _ => exact nomatch hid

/-- Each command that a method hands out has been asked for by the message. -/
theorem asked_of_mem_commands {command : Command} (hmember : message.member = some method.name)
    (hfits : Fits method (arguments message.body)) {s : State}
    (h : command ∈ method.commands s (arguments message.body)) :
    (∃ id, message.Clicks id ∧ BelongsTo command id s) ∨
      command = .menuOpening ∧ message.Opens Menu.rootId := by
  generalize harguments : arguments message.body = values at hfits h
  cases hfits with
  | event id kind data time =>
    obtain ⟨clicked, hclicked, hbelongs⟩ := mem_commandsOf h
    obtain ⟨rfl, rfl⟩ := Prod.mk.inj (List.mem_singleton.1 hclicked)
    exact .inl ⟨_, .event _ _ hmember harguments, hbelongs⟩
  | eventGroup events =>
    obtain ⟨clicked, hclicked, hbelongs⟩ := mem_commandsOf h
    obtain ⟨data, time, hevent⟩ := mem_eventsOf hclicked
    exact .inl ⟨clicked, .eventGroup _ _ _ _ hmember harguments hevent, hbelongs⟩
  | aboutToShow id =>
    obtain ⟨hcommand, hroot⟩ := mem_opening h
    obtain rfl := List.mem_singleton.1 hroot
    exact .inr ⟨hcommand, .aboutToShow hmember harguments⟩
  | aboutToShowGroup ids =>
    obtain ⟨hcommand, hroot⟩ := mem_opening h
    exact .inr ⟨hcommand, .aboutToShowGroup _ _ hmember harguments
      (int32_mem_of_mem_filterMap hroot)⟩
  | _ => exact nomatch h

/-- The methods that can hand out commands never fail. -/
theorem commands_eq_nil_of_error (htarget : target message = .ok (kind.object, method))
    (haccepts : Accepts method message) {fault : Fault} {s : State}
    (h : answer message tray = .error fault) :
    method.commands s (arguments message.body) = [] := by
  refine Classical.byContradiction fun hcommands => ?_
  have hmethod := Method.dispatches_of_commands hcommands
  obtain ⟨htypes, hzero⟩ := haccepts.of_dispatches hmethod
  have hplain : method ∉ [Method.get, .getAll, .set, .getLayout] := by
    intro hmem
    cases method with
    | get | getAll | set | getLayout => exact absurd hmethod (by decide)
    | _ => exact absurd hmem (by decide)
  obtain ⟨reply, hreply, -⟩ := delivers_of_fits hplain haccepts.fits kind.object tray
  rw [answer_of_takes htarget htypes hzero, hreply] at h
  exact nomatch h

theorem exists_asks (message : Message) (tray : Tray) :
    ∃ commands, Asks message tray commands := by
  rcases htarget : target message with fault | ⟨object, method⟩
  · exact ⟨[], asks_nothing (trayAfter_of_error htarget)⟩
  obtain ⟨kind, declared, rfl, hpath, hmember, hfinds⟩ := finds_of_target htarget
  by_cases haccepts : Accepts method message
  · refine ⟨method.commands tray.state (arguments message.body), ?_, fun hcommands => ?_,
      fun fault hfault => ?_, fun command hcommand => ?_⟩
    · rw [trayAfter_of_accepts htarget haccepts, trayAfterCall_of_fits haccepts.fits]
    · have hmethod := Method.dispatches_of_commands hcommands
      obtain ⟨rfl, hname⟩ :=
        menu_of_dispatches declared hfinds.interface_mem method hfinds.method_mem hmethod
      refine ⟨hpath, ?_, method, hmethod, hmember, ?_⟩
      · -- The name that the message means is that of the menu, and it may be left out.
        have hinterface := hfinds.interface_name.symm.trans hname
        rw [Message.interfaceOf] at hinterface
        rcases hmessage : message.interface with _ | interface
        · exact .inl rfl
        · rw [hmessage] at hinterface
          exact .inr (congrArg some hinterface)
      · rw [← takes_eq_inputTypes]
        exact (haccepts.of_dispatches hmethod).1
    · exact commands_eq_nil_of_error htarget haccepts hfault
    · exact asked_of_mem_commands hmember haccepts.fits hcommand
  · exact ⟨[], asks_nothing (trayAfter_of_not_accepts htarget haccepts)⟩

/-! ## Messages among operations -/

/-- What reaches the tray: an operation that is asked of it, or a message from the bus. -/
inductive Input
  | operation (operation : Tray.Operation)
  | message (message : Message)

/-- The operation that reaches the tray, unless it is a message. -/
def Input.operation? : Input → Option Tray.Operation
  | .operation asked => some asked
  | .message _ => none

/-- The tray after something has reached it. -/
def Input.apply (tray : Tray) : Input → Tray
  | .operation asked => tray.after asked
  | .message sent => trayAfter sent tray

/-- The tray after several things have reached it, one after the other. -/
def afterInputs (tray : Tray) (inputs : List Input) : Tray := inputs.foldl Input.apply tray

/-- What becomes of a tray that messages reach among its operations. -/
structure Contained (tray : Tray) (inputs : List Input) : Prop where
  /-- The state is what it would be without the messages. -/
  state : (afterInputs tray inputs).state =
    (tray.afterAll (inputs.filterMap Input.operation?)).state
  /-- The signals are those that there would be without the messages. -/
  signals : (afterInputs tray inputs).signals =
    (tray.afterAll (inputs.filterMap Input.operation?)).signals
  /-- A message only asks for commands, whatever has reached the tray before. -/
  asks : ∀ earlier message later, inputs = earlier ++ .message message :: later →
    ∃ commands, Asks message (afterInputs tray earlier) commands

theorem state_trayAfter (message : Message) (tray : Tray) :
    (trayAfter message tray).state = tray.state := by
  obtain ⟨commands, hasks⟩ := exists_asks message tray
  rw [hasks.after, Tray.state_handOut]

theorem signals_trayAfter (message : Message) (tray : Tray) :
    (trayAfter message tray).signals = tray.signals := by
  obtain ⟨commands, hasks⟩ := exists_asks message tray
  rw [hasks.after, Tray.signals_handOut]

/-- What the tray shows and tells the desktop does not depend on the messages. -/
theorem shown_afterInputs {tray tray' : Tray} (hstate : tray.state = tray'.state)
    (hsignals : tray.signals = tray'.signals) (inputs : List Input) :
    (afterInputs tray inputs).state =
        (tray'.afterAll (inputs.filterMap Input.operation?)).state ∧
      (afterInputs tray inputs).signals =
        (tray'.afterAll (inputs.filterMap Input.operation?)).signals := by
  induction inputs generalizing tray tray' with
  | nil => exact ⟨hstate, hsignals⟩
  | cons input inputs ih =>
    cases input with
    | operation asked =>
      exact ih (Tray.state_after_congr hstate asked)
        (Tray.signals_after_congr hstate hsignals asked)
    | message sent =>
      exact ih ((state_trayAfter sent tray).trans hstate)
        ((signals_trayAfter sent tray).trans hsignals)

/-- Messages from the bus can look at the tray and ask for commands of its menu, and nothing
    else. -/
theorem contained_of_inputs (tray : Tray) (inputs : List Input) : Contained tray inputs where
  state := (shown_afterInputs rfl rfl inputs).1
  signals := (shown_afterInputs rfl rfl inputs).2
  asks earlier message _ _ := exists_asks message (afterInputs tray earlier)

end VpnTray.Bus
