import VpnTray.Proofs.Bus.MenuReads
import VpnTray.Proofs.Bus.Requests
import VpnTray.Proofs.Menu.Depth

/-!
# Events and openings in groups

The desktop tells of what happens in the menu one by one or in groups. A group of events does
what its events do one after the other, wherever it is split. A group of menus that are going
to be shown is answered like each of them, but the opening of the whole menu counts once.

What a click does is also what the menu shows: an item with two sides asks for the one that it
is labelled with, or for the opposite of its mark.

* `eventGroup_append`, `run_eventGroup_eq_foldl`: groups of events, split and one by one;
* `tells_toggleItem`, `tells_autoConnectItem`: what a click does is what is shown;
* `isSome_commandOf_iff`: the items that a click does something at;
* `trayAfter_eventGroupRequest`: a group of events over the bus;
* `grouped`: all of it, in any state of the tray.
-/

namespace VpnTray.Bus

variable {tray : Tray}

/-! ## Groups of events -/

/-- The command that an event hands out, if any. -/
def commandOf (tray : Tray) (id : Int32) (kind : String) : Option Command :=
  ((Tray.event id kind).run tray).1

theorem commandOf_eq (tray : Tray) (id : Int32) (kind : String) :
    commandOf tray id kind = Menu.command? tray.state id kind := by
  rw [commandOf, Tray.run_event]

/-- A group can be split anywhere. -/
theorem eventGroup_append (front back : List (Int32 × String)) :
    Tray.eventGroup (front ++ back) = Tray.eventGroup front *> Tray.eventGroup back := by
  simp [Tray.eventGroup, List.forM_append, seqRight_eq_bind]

theorem commandsOf_eq_flatMap (s : State) (events : List (Int32 × String)) :
    Tray.commandsOf s events =
      events.flatMap fun event => (Menu.command? s event.1 event.2).toList := by
  induction events with
  | nil => rfl
  | cons event events ih => rw [Tray.commandsOf_cons, ih, List.flatMap_cons]

/-- Commands that are handed out one after the other are asked for in one state. -/
theorem foldl_handOut {α : Type} (commands : State → α → List Command) (asked : List α)
    (tray : Tray) :
    asked.foldl (fun tray a => tray.handOut (commands tray.state a)) tray =
      tray.handOut (asked.flatMap (commands tray.state)) := by
  induction asked generalizing tray with
  | nil => simp
  | cons a asked ih =>
    rw [List.foldl_cons, ih, Tray.state_handOut, Tray.handOut_handOut, List.flatMap_cons]

/-- Several events do what each of them does, one after the other. -/
theorem run_eventGroup_eq_foldl (events : List (Int32 × String)) (tray : Tray) :
    ((Tray.eventGroup events).run tray).2 =
      events.foldl (fun tray event => ((Tray.event event.1 event.2).run tray).2) tray := by
  simp only [Tray.run_eventGroup, Tray.run_event, commandsOf_eq_flatMap]
  exact (foldl_handOut (fun s event => (Menu.command? s event.1 event.2).toList) events tray).symm

/-! ## What the menu shows -/

theorem lookup_filter_of_mem {names : List String} {name : String} (h : name ∈ names)
    (properties : Menu.Properties) :
    (properties.filter (·.1 ∈ names)).lookup name = properties.lookup name := by
  induction properties with
  | nil => rfl
  | cons entry properties ih =>
    obtain ⟨other, value⟩ := entry
    by_cases hname : name = other
    · subst hname
      simp [h]
    · rw [List.lookup_cons, beq_false_of_ne hname, ← ih, List.filter_cons]
      split
      · rw [List.lookup_cons, beq_false_of_ne hname]
      · rfl

/-- Names do not restrict a property that has one of them. -/
theorem lookup_restrict {names : List String} {name : String} (h : names = [] ∨ name ∈ names)
    (properties : Menu.Properties) :
    (Menu.restrict names properties).lookup name = properties.lookup name := by
  rw [Menu.restrict]
  split
  · rfl
  · next hne =>
    rw [List.isEmpty_iff] at hne
    exact lookup_filter_of_mem (h.resolve_left hne) properties

/-- What a click on an item asks for is what a property of the item tells: each value that it
    can have goes with a command. -/
structure Tells (tray : Tray) (id : Int32) (name : String)
    (told : List (Menu.PropertyValue × Command)) : Prop where
  /-- The item is shown. -/
  shown : ∃ node, IsRead tray.state [] node ∧ node.id = id
  /-- However the item is read, the property has one of the values, as long as it is asked for. -/
  has : ∀ names node, IsRead tray.state names node → node.id = id → names = [] ∨ name ∈ names →
    ∃ value ∈ told.map Prod.fst, node.properties.lookup name = some value
  /-- A value is shown exactly when its command is handed out. -/
  does : ∀ names node, IsRead tray.state names node → node.id = id → names = [] ∨ name ∈ names →
    ∀ entry ∈ told, node.properties.lookup name = some entry.1 ↔
      commandOf tray id "clicked" = some entry.2

theorem find?_toggleItem : Menu.menu.find? 1 = some (.node Menu.toggleItem []) := rfl

theorem find?_autoConnectItem : Menu.menu.find? 17 = some (.node Menu.autoConnectItem []) := rfl

theorem exists_isRead {tree : Menu.Tree} (h : tree ∈ Menu.menu.subtrees) (s : State)
    (names : List String) : ∃ node, IsRead s names node ∧ node.id = tree.id := by
  have hself : tree.layout s names 0 ∈ (tree.layout s names 0).nodes := by
    cases tree
    rw [Menu.Tree.layout, Menu.Layout.nodes_node]
    exact List.mem_cons_self
  exact ⟨_, ⟨tree.id, 0, s.revision, _, Menu.layout?_of_mem h 0, hself⟩, Menu.id_layout 0 tree⟩

/-- What is read of an item under a name, as long as it is asked for. -/
theorem lookup_of_isRead {tree : Menu.Tree} (h : tree ∈ Menu.menu.subtrees) {s : State}
    {names : List String} {node : Menu.Layout} (hnode : IsRead s names node)
    (hid : node.id = tree.id) {name : String} (hname : names = [] ∨ name ∈ names) :
    node.properties.lookup name = (tree.item.properties s).lookup name := by
  obtain ⟨part, hpart, hpartId, hproperties⟩ := hnode.exists_item
  have hfound := Menu.find?_of_mem_subtrees hpart
  rw [← hpartId, hid, Menu.find?_of_mem_subtrees h] at hfound
  obtain rfl := Option.some.inj hfound
  rw [hproperties, lookup_restrict hname]

/-- A property tells what a click asks for if both of them follow the state in the same way. -/
theorem tells_of_mem {tree : Menu.Tree} (h : tree ∈ Menu.menu.subtrees) {name : String}
    {told : List (Menu.PropertyValue × Command)} {entry : Menu.PropertyValue × Command}
    (hentry : entry ∈ told)
    (hproperty : (tree.item.properties tray.state).lookup name = some entry.1)
    (hcommand : Menu.command? tray.state tree.id "clicked" = some entry.2)
    (hdistinct : ∀ other ∈ told, entry.1 = other.1 ↔ entry.2 = other.2) :
    Tells tray tree.id name told where
  shown := exists_isRead h tray.state []
  has names node hnode hid hname :=
    ⟨entry.1, List.mem_map.2 ⟨entry, hentry, rfl⟩,
      (lookup_of_isRead h hnode hid hname).trans hproperty⟩
  does names node hnode hid hname other hother := by
    rw [lookup_of_isRead h hnode hid hname, hproperty, commandOf_eq, hcommand, Option.some_inj,
      Option.some_inj]
    exact hdistinct other hother

/-- A click on the item that connects and disconnects does what its label says. -/
theorem tells_toggleItem (tray : Tray) :
    Tells tray 1 "label" [(.text "Disconnect", .disconnect), (.text "Connect", .connect)] := by
  have hmem := (Menu.find?_eq_some find?_toggleItem).1
  have hlabel : (Menu.toggleItem.properties tray.state).lookup "label" =
      some (.text (if tray.state.connected then "Disconnect" else "Connect")) := rfl
  have hcommand : Menu.command? tray.state 1 "clicked" =
      some (if tray.state.connected then .disconnect else .connect) := rfl
  cases hconnected : tray.state.connected with
  | true =>
    rw [hconnected, if_pos rfl] at hlabel hcommand
    exact tells_of_mem hmem List.mem_cons_self hlabel hcommand (by decide)
  | false =>
    rw [hconnected, if_neg Bool.false_ne_true] at hlabel hcommand
    exact tells_of_mem hmem (List.mem_cons_of_mem _ List.mem_cons_self) hlabel hcommand (by decide)

/-- A click on the item with the mark turns what the mark says. -/
theorem tells_autoConnectItem (tray : Tray) :
    Tells tray 17 "toggle-state"
      [(.number 1, .setAutoConnect false), (.number 0, .setAutoConnect true)] := by
  have hmem := (Menu.find?_eq_some find?_autoConnectItem).1
  have hmark : (Menu.autoConnectItem.properties tray.state).lookup "toggle-state" =
      some (.number (if tray.state.autoConnect then 1 else 0)) := rfl
  have hcommand : Menu.command? tray.state 17 "clicked" =
      some (.setAutoConnect !tray.state.autoConnect) := rfl
  cases henabled : tray.state.autoConnect with
  | true =>
    rw [henabled] at hmark hcommand
    exact tells_of_mem hmem List.mem_cons_self hmark hcommand (by decide)
  | false =>
    rw [henabled] at hmark hcommand
    exact tells_of_mem hmem (List.mem_cons_of_mem _ List.mem_cons_self) hmark hcommand (by decide)

/-- The items that do something are the rows of the menu that are not there to be read only. -/
theorem isSome_action_iff : ∀ tree ∈ Menu.menu.subtrees, tree.item.action.isSome ↔
    tree.item.kind = .row ∧ tree.item.enabled ≠ .never := by
  decide

theorem isSome_commandOf_iff (tray : Tray) (id : Int32) (kind : String) :
    (commandOf tray id kind).isSome ↔ kind = "clicked" ∧ ∃ tree, Menu.menu.find? id = some tree ∧
      tree.item.kind = .row ∧ tree.item.enabled ≠ .never := by
  rw [commandOf_eq, Menu.command?]
  cases hfind : Menu.menu.find? id with
  | none => simp
  | some tree =>
    obtain ⟨hmem, rfl⟩ := Menu.find?_eq_some hfind
    have haction : (tree.item.command? tray.state).isSome ↔
        tree.item.kind = .row ∧ tree.item.enabled ≠ .never := by
      rw [Menu.Item.command?, Option.isSome_map]
      exact isSome_action_iff tree hmem
    have hroot : tree.id = Menu.rootId → tree.item.kind ≠ .row := by
      intro hid
      rw [hid] at hfind
      obtain rfl : Menu.menu = tree := Option.some.inj hfind
      decide
    by_cases hclicked : kind = "clicked"
    · by_cases hid : tree.id = Menu.rootId
      · simp [hid, hroot hid]
      · simp [hclicked, hid, haction]
    · simp [hclicked]

/-! ## Calls -/

/-- An event as it is told over the bus, with some data and a time, at which nobody looks. -/
structure MenuEvent where
  id : Int32
  kind : String
  data : Value
  time : UInt32

/-- What a call carries for an event. -/
def MenuEvent.fields (event : MenuEvent) : List Value :=
  [.int32 event.id, .string event.kind, .variant event.data, .uint32 event.time]

/-- No string of an event holds the character U+0000. -/
def MenuEvent.IsPlain (event : MenuEvent) : Prop := Value.anyZero event.fields = false

/-- The call for an event. -/
def eventRequest (event : MenuEvent) : Message := menuCall .event event.fields

/-- The call for several events. -/
def eventGroupRequest (events : List MenuEvent) : Message :=
  menuCall .eventGroup [.array eventType (events.map fun event => .struct event.fields)]

/-- The call before a menu is shown. -/
def openRequest (id : Int32) : Message := menuCall .aboutToShow [.int32 id]

/-- The call before several menus are shown. -/
def openGroupRequest (ids : List Int32) : Message := menuCall .aboutToShowGroup [.int32s ids]

/-- A call to the menu that can be read hands out what it asks for. -/
theorem trayAfter_menuCall {method : Method} {body : List Value}
    (hmethod : method ∈ menuInterface.methods) (hbody : arguments body = body)
    (htypes : Value.types body = method.takes) (hzero : Value.anyZero body = false)
    (tray : Tray) :
    trayAfter (menuCall method body) tray = tray.handOut (method.commands tray.state body) := by
  have htarget : target (menuCall method body) = .ok (ObjectKind.menu.object, method) :=
    target_of_member? rfl rfl (member?_menu method hmethod).2
  have harguments : arguments (menuCall method body).body = body := hbody
  have haccepts : Accepts method (menuCall method body) := by
    refine .inr ?_
    rw [harguments]
    exact ⟨htypes, hzero⟩
  rw [trayAfter_of_accepts htarget haccepts, harguments,
    trayAfterCall_of_fits (fits_of_types htypes)]

theorem eventsOf_map_fields (events : List MenuEvent) :
    eventsOf (events.map fun event => .struct event.fields) =
      events.map fun event => (event.id, event.kind) := by
  rw [eventsOf, List.filterMap_map]
  exact List.filterMap_eq_map.symm ▸ rfl

theorem anyZero_eventGroup {events : List MenuEvent} (h : ∀ event ∈ events, event.IsPlain) :
    Value.anyZero [.array eventType (events.map fun event => .struct event.fields)] = false := by
  have hall : Value.anyZero (events.map fun event => .struct event.fields) = false := by
    induction events with
    | nil => rfl
    | cons event events ih =>
      obtain ⟨hevent, hevents⟩ := List.forall_mem_cons.1 h
      rw [List.map_cons, Value.anyZero, ih hevents, Bool.or_false]
      exact hevent
  rw [Value.anyZero, Value.hasZero, hall]
  rfl

theorem trayAfter_eventRequest {event : MenuEvent} (h : event.IsPlain) (tray : Tray) :
    trayAfter (eventRequest event) tray =
      tray.handOut (Menu.command? tray.state event.id event.kind).toList := by
  have hcommands : Method.event.commands tray.state event.fields =
      Tray.commandsOf tray.state [(event.id, event.kind)] := rfl
  rw [eventRequest, trayAfter_menuCall (by decide) rfl rfl h, hcommands, commandsOf_eq_flatMap,
    List.flatMap_singleton]

/-- A call for several events does what the calls for each of them do, one after the other. -/
theorem trayAfter_eventGroupRequest {events : List MenuEvent}
    (h : ∀ event ∈ events, event.IsPlain) (tray : Tray) :
    trayAfter (eventGroupRequest events) tray =
      events.foldl (fun tray event => trayAfter (eventRequest event) tray) tray := by
  have hsingle : events.foldl (fun tray event => trayAfter (eventRequest event) tray) tray =
      events.foldl (fun tray event =>
        tray.handOut (Menu.command? tray.state event.id event.kind).toList) tray :=
    List.foldl_ext _ _ tray fun tray event hevent => trayAfter_eventRequest (h event hevent) tray
  rw [hsingle, foldl_handOut fun s (event : MenuEvent) =>
      (Menu.command? s event.id event.kind).toList, eventGroupRequest,
    trayAfter_menuCall (by decide) rfl rfl (anyZero_eventGroup h), Method.commands,
    eventsOf_map_fields, commandsOf_eq_flatMap, List.flatMap_map]

theorem answer_eventGroupRequest {events : List MenuEvent} (h : ∀ event ∈ events, event.IsPlain)
    (tray : Tray) : answer (eventGroupRequest events) tray = .ok (.ids []) := by
  rw [eventGroupRequest, answer_menuCall (by decide) rfl rfl, anyZero_eventGroup h,
    if_neg Bool.false_ne_true, callAnswer, call, run_liftM_bind, Tray.run_eventGroup]
  rfl

theorem answer_openRequest (id : Int32) (tray : Tray) :
    answer (openRequest id) tray = .ok (.flag true) := by
  have hzero : Value.anyZero [.int32 id] = false := rfl
  rw [openRequest, answer_menuCall (by decide) rfl rfl, hzero, if_neg Bool.false_ne_true,
    callAnswer, call, run_liftM_bind, Tray.run_aboutToShow]
  rfl

theorem anyZero_openGroup (ids : List Int32) : Value.anyZero [.int32s ids] = false := by
  rw [Value.anyZero, Value.int32s, Value.hasZero, anyZero_int32s]
  rfl

theorem answer_openGroupRequest (ids : List Int32) (tray : Tray) :
    answer (openGroupRequest ids) tray = .ok (.idLists ids []) := by
  rw [openGroupRequest, answer_menuCall (by decide) rfl rfl, anyZero_openGroup,
    if_neg Bool.false_ne_true, Value.int32s, callAnswer, call, run_liftM_bind,
    Tray.run_aboutToShowGroup, filterMap_int32?]
  rfl

theorem trayAfter_openGroupRequest (ids : List Int32) (tray : Tray) :
    trayAfter (openGroupRequest ids) tray = ((Tray.aboutToShowGroup ids).run tray).2 := by
  rw [openGroupRequest, trayAfter_menuCall (by decide) rfl rfl (anyZero_openGroup ids),
    Value.int32s, Method.commands, filterMap_int32?, Tray.run_aboutToShowGroup]

/-! ## Groups in any state -/

/-- What the desktop tells of in groups is what it tells of one by one, and a click does what the
    menu shows. -/
structure Grouped (tray : Tray) : Prop where
  /-- An event hands out its command, if it has one, and does nothing else. -/
  event : ∀ id kind, (Tray.event id kind).run tray =
    (commandOf tray id kind, tray.handOut (commandOf tray id kind).toList)
  /-- Several events hand out the commands of each of them in their order, and none fails. -/
  eventGroup : ∀ events, (Tray.eventGroup events).run tray =
    ([], tray.handOut (events.flatMap fun event => (commandOf tray event.1 event.2).toList))
  /-- They do the same when they are told of one by one. -/
  oneByOne : ∀ events, ((Tray.eventGroup events).run tray).2 =
    events.foldl (fun tray event => ((Tray.event event.1 event.2).run tray).2) tray
  /-- A group can be split anywhere, whatever others do meanwhile. -/
  split : ∀ front back,
    Tray.eventGroup (front ++ back) = Tray.eventGroup front *> Tray.eventGroup back
  /-- A click on the item that connects and disconnects does what the item is labelled with. -/
  toggle : Tells tray 1 "label" [(.text "Disconnect", .disconnect), (.text "Connect", .connect)]
  /-- A click on the item with the mark turns what the mark says. -/
  autoConnect : Tells tray 17 "toggle-state"
    [(.number 1, .setAutoConnect false), (.number 0, .setAutoConnect true)]
  /-- Only a click does something, and only on a row of the menu that is not a detail, which is
      never enabled. -/
  active : ∀ id kind, (commandOf tray id kind).isSome ↔ kind = "clicked" ∧
    ∃ tree, Menu.menu.find? id = some tree ∧ tree.item.kind = .row ∧ tree.item.enabled ≠ .never
  /-- The opening of the whole menu is a command, and that of another menu is none. -/
  aboutToShow : ∀ id, (Tray.aboutToShow id).run tray =
    (true, tray.handOut (if id = Menu.rootId then [.menuOpening] else []))
  /-- Several menus may all have changed, as each of them may, and none is missing. The opening of
      the whole menu among them is one command, however often it is told of. -/
  aboutToShowGroup : ∀ ids, (Tray.aboutToShowGroup ids).run tray =
    ((ids.filter fun id => ((Tray.aboutToShow id).run tray).1, []),
      tray.handOut (if Menu.rootId ∈ ids then [.menuOpening] else []))
  /-- A call for several events is answered, and does what the calls for each of them do. -/
  eventCalls : ∀ events : List MenuEvent, (∀ event ∈ events, event.IsPlain) →
    answer (eventGroupRequest events) tray = .ok (.ids []) ∧
      trayAfter (eventGroupRequest events) tray =
        events.foldl (fun tray event => trayAfter (eventRequest event) tray) tray
  /-- A call for several menus is answered like the calls for each of them. -/
  openCalls : ∀ ids, answer (openGroupRequest ids) tray = .ok (.idLists ids []) ∧
    (∀ id ∈ ids, answer (openRequest id) tray = .ok (.flag true)) ∧
      trayAfter (openGroupRequest ids) tray = ((Tray.aboutToShowGroup ids).run tray).2

/-- Groups of events and of openings agree with single ones, and clicks with what is shown. -/
theorem grouped (tray : Tray) : Grouped tray where
  event id kind := by rw [commandOf_eq, Tray.run_event]
  eventGroup events := by
    rw [Tray.run_eventGroup, commandsOf_eq_flatMap]
    simp only [commandOf_eq]
  oneByOne events := run_eventGroup_eq_foldl events tray
  split := eventGroup_append
  toggle := tells_toggleItem tray
  autoConnect := tells_autoConnectItem tray
  active := isSome_commandOf_iff tray
  aboutToShow id := by
    rw [Tray.run_aboutToShow, Tray.opening]
    simp [eq_comm]
  aboutToShowGroup ids := by
    have hall : (ids.filter fun id => ((Tray.aboutToShow id).run tray).1) = ids :=
      List.filter_eq_self.2 fun id _ => by rw [Tray.run_aboutToShow]
    rw [hall, Tray.run_aboutToShowGroup, Tray.opening]
  eventCalls events h := ⟨answer_eventGroupRequest h tray, trayAfter_eventGroupRequest h tray⟩
  openCalls ids := ⟨answer_openGroupRequest ids tray, fun id _ => answer_openRequest id tray,
    trayAfter_openGroupRequest ids tray⟩

end VpnTray.Bus
