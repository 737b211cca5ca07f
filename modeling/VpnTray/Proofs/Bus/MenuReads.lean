import VpnTray.Proofs.Bus.Reply
import VpnTray.Proofs.Menu.Items

/-!
# Reading the menu over the bus

The menu is read by three calls: for a layout, for the properties of several items, and for
a single property of an item. They tell the same of each item, and what they tell is never
empty, so that the empty string says that an item has no such property.

* `answer_layoutRequest`, `answer_groupRequest`, `answer_propertyRequest`: what is answered;
* `readsAgree`: how the answers fit together, in any state of the tray.

A name with the character U+0000 is refused by all three calls (`answer_zeroName`).
-/

namespace VpnTray.Bus

/-! ## The calls -/

/-- A call of a method of the menu. -/
def menuCall (method : Method) (body : List Value) : Message where
  path := some "/MenuBar"
  interface := some "com.canonical.dbusmenu"
  member := some method.name
  body := body

/-- The call for a layout. -/
def layoutRequest (parent depth : Int32) (names : List String) : Message :=
  menuCall .getLayout [.int32 parent, .int32 depth, .strings names]

/-- The call for the properties of several items. -/
def groupRequest (ids : List Int32) (names : List String) : Message :=
  menuCall .getGroupProperties [.int32s ids, .strings names]

/-- The call for a single property of an item. -/
def propertyRequest (id : Int32) (name : String) : Message :=
  menuCall .getProperty [.int32 id, .string name]

/-- A name holds the character U+0000. -/
def HoldsZero (name : String) : Prop := '\x00' ∈ name.toList

instance : DecidablePred HoldsZero := fun name => inferInstanceAs (Decidable (_ ∈ name.toList))

variable {tray : Tray}

theorem hasZero_string (name : String) : (Value.string name).hasZero = decide (HoldsZero name) := by
  rw [Value.hasZero, Bool.eq_iff_iff, List.any_eq_true, decide_eq_true_iff]
  simp [HoldsZero]

theorem anyZero_strings (names : List String) :
    Value.anyZero (names.map Value.string) = decide (∃ name ∈ names, HoldsZero name) := by
  induction names with
  | nil => rfl
  | cons name names ih =>
    rw [List.map_cons, Value.anyZero, ih, hasZero_string]
    simp

theorem anyZero_int32s (ids : List Int32) : Value.anyZero (ids.map Value.int32) = false := by
  induction ids with
  | nil => rfl
  | cons id ids ih => rw [List.map_cons, Value.anyZero, ih]; rfl

theorem filterMap_string? (names : List String) :
    (names.map Value.string).filterMap Value.string? = names := by
  rw [List.filterMap_map]
  exact List.filterMap_some

theorem filterMap_int32? (ids : List Int32) :
    (ids.map Value.int32).filterMap Value.int32? = ids := by
  rw [List.filterMap_map]
  exact List.filterMap_some

/-! ## The answers -/

theorem member?_menu : ∀ method ∈ menuInterface.methods, method.ignoresBody = false ∧
    ObjectKind.menu.member? "com.canonical.dbusmenu" method.name = some (some method) := by
  decide

/-- A call to the menu with arguments of the right types is answered, unless a string in them
    cannot be read. -/
theorem answer_menuCall {method : Method} {body : List Value}
    (hmethod : method ∈ menuInterface.methods) (hbody : arguments body = body)
    (htypes : Value.types body = method.takes) :
    answer (menuCall method body) tray =
      if Value.anyZero body then .error .zeroInString
      else callAnswer ObjectKind.menu.object method body tray := by
  obtain ⟨hignores, hmember⟩ := member?_menu method hmethod
  have htarget : target (menuCall method body) = .ok (ObjectKind.menu.object, method) :=
    target_of_member? rfl rfl hmember
  have harguments : arguments (menuCall method body).body = body := hbody
  rw [answer_of_target htarget, harguments, hignores, if_neg Bool.false_ne_true,
    if_neg (not_not_intro htypes)]

theorem answer_layoutRequest (parent depth : Int32) (names : List String) :
    answer (layoutRequest parent depth names) tray =
      if ∃ name ∈ names, HoldsZero name then .error .zeroInString
      else match Menu.layout? tray.state parent depth names with
        | none => .error (.noMenuItem parent)
        | some (revision, layout) => .ok (.layout revision layout) := by
  have hzero : Value.anyZero [.int32 parent, .int32 depth, .strings names] =
      decide (∃ name ∈ names, HoldsZero name) := by
    rw [← anyZero_strings]
    exact Bool.or_false _
  rw [layoutRequest, answer_menuCall (by decide) rfl rfl, hzero, Value.strings,
    callAnswer_getLayout, filterMap_string?]
  exact if_congr decide_eq_true_iff rfl rfl

theorem callAnswer_getGroupProperties (object : Object Tray) (ids names : List Value)
    (idType nameType : Signature) (tray : Tray) :
    callAnswer object .getGroupProperties [.array idType ids, .array nameType names] tray =
      .ok (.group ((Menu.group tray.state (ids.filterMap Value.int32?)
        (names.filterMap Value.string?)).map fun item => (item.1, menuProperties item.2))) := by
  rw [callAnswer, call, run_look_bind]
  rfl

theorem answer_groupRequest (ids : List Int32) (names : List String) :
    answer (groupRequest ids names) tray =
      if ∃ name ∈ names, HoldsZero name then .error .zeroInString
      else .ok (.group ((Menu.group tray.state ids names).map fun item =>
        (item.1, menuProperties item.2))) := by
  have hzero : Value.anyZero [.int32s ids, .strings names] =
      decide (∃ name ∈ names, HoldsZero name) := by
    rw [← anyZero_strings]
    change (Value.anyZero (ids.map Value.int32) || (Value.anyZero (names.map Value.string) ||
      false)) = _
    rw [anyZero_int32s, Bool.false_or, Bool.or_false]
  rw [groupRequest, answer_menuCall (by decide) rfl rfl, hzero, Value.strings, Value.int32s,
    callAnswer_getGroupProperties, filterMap_string?, filterMap_int32?]
  exact if_congr decide_eq_true_iff rfl rfl

theorem callAnswer_getProperty (object : Object Tray) (id : Int32) (name : String) (tray : Tray) :
    callAnswer object .getProperty [.int32 id, .string name] tray =
      .ok (.value ((Menu.property? tray.state id name).elim (.string "") propertyValue)) := by
  rw [callAnswer, call, run_look_bind]
  rfl

theorem answer_propertyRequest (id : Int32) (name : String) :
    answer (propertyRequest id name) tray =
      if HoldsZero name then .error .zeroInString
      else .ok (.value ((Menu.property? tray.state id name).elim (.string "") propertyValue)) := by
  have hzero : Value.anyZero [.int32 id, .string name] = decide (HoldsZero name) := by
    rw [← hasZero_string]
    exact Bool.or_false _
  rw [propertyRequest, answer_menuCall (by decide) rfl rfl, hzero, callAnswer_getProperty]
  exact if_congr decide_eq_true_iff rfl rfl

/-! ## How the answers fit together -/

/-- A node of a layout that is read of the menu in a state. -/
def IsRead (s : State) (names : List String) (node : Menu.Layout) : Prop :=
  ∃ parent depth revision layout,
    Menu.layout? s parent depth names = some (revision, layout) ∧ node ∈ layout.nodes

/-- What is read of the menu in different ways is the same. -/
structure ReadsAgree (tray : Tray) : Prop where
  /-- The properties of a node are those that are read of its item. -/
  node : ∀ names node, IsRead tray.state names node →
    Menu.group tray.state [node.id] names = [(node.id, node.properties)]
  /-- A single property of a node is the one among all properties of its item, or the empty
      string if there is none, unless its name holds the character U+0000. -/
  property : ∀ names node, IsRead tray.state names node →
    ∃ properties, Menu.group tray.state [node.id] [] = [(node.id, properties)] ∧ ∀ name,
      answer (propertyRequest node.id name) tray =
        if HoldsZero name then .error .zeroInString
        else .ok (.value ((properties.lookup name).elim (.string "") propertyValue))
  /-- No property is the empty string. -/
  nonempty : ∀ ids names, ∀ item ∈ Menu.group tray.state ids names, ∀ entry ∈ item.2,
    propertyValue entry.2 ≠ .string ""
  /-- An item has one property under each name. -/
  distinct : ∀ ids names, ∀ item ∈ Menu.group tray.state ids names,
    (item.2.map Prod.fst).Nodup
  /-- The items are those that were asked for, in their order and as often, as far as they are
      in the menu. -/
  order : ∀ ids names,
    (Menu.group tray.state ids names).map Prod.fst = ids.filter (· ∈ Menu.ids)
  /-- What is read of an item does not depend on the others. -/
  each : ∀ ids names, Menu.group tray.state ids names =
    ids.flatMap fun id => Menu.group tray.state [id] names
  /-- Names restrict what is read to the properties that have one of them. -/
  restricted : ∀ ids names, names ≠ [] → Menu.group tray.state ids names =
    (Menu.group tray.state ids []).map fun item => (item.1, item.2.filter (·.1 ∈ names))
  /-- A layout is answered as it is read. -/
  layoutAnswer : ∀ parent depth names, (∀ name ∈ names, ¬HoldsZero name) →
    ∀ revision layout, Menu.layout? tray.state parent depth names = some (revision, layout) →
      answer (layoutRequest parent depth names) tray = .ok (.layout revision layout)
  /-- The properties of several items are answered as they are read. -/
  groupAnswer : ∀ ids names, (∀ name ∈ names, ¬HoldsZero name) →
    answer (groupRequest ids names) tray =
      .ok (.group ((Menu.group tray.state ids names).map fun item =>
        (item.1, menuProperties item.2)))

variable {names : List String} {node : Menu.Layout}

/-- A node that is read shows an item of the menu. -/
theorem IsRead.exists_item {s : State} (h : IsRead s names node) :
    ∃ part ∈ Menu.menu.subtrees, node.id = part.id ∧
      node.properties = Menu.restrict names (part.item.properties s) := by
  obtain ⟨parent, depth, revision, layout, hlayout, hnode⟩ := h
  obtain ⟨tree, htree, heq⟩ := Option.map_eq_some_iff.1 hlayout
  obtain ⟨-, rfl⟩ := Prod.mk.inj heq
  obtain ⟨part, hpart, hshown⟩ := Menu.exists_of_mem_nodes hnode
  exact ⟨part, Menu.Tree.subtrees_trans (Menu.find?_eq_some htree).1 hpart, hshown⟩

theorem group_of_isRead {s : State} (h : IsRead s names node) :
    Menu.group s [node.id] names = [(node.id, node.properties)] := by
  obtain ⟨part, hpart, hid, hproperties⟩ := h.exists_item
  rw [hid, hproperties, Menu.group_singleton, Menu.find?_of_mem_subtrees hpart]
  rfl

theorem mem_group {s : State} {ids : List Int32} {item : Int32 × Menu.Properties}
    (h : item ∈ Menu.group s ids names) :
    ∃ part ∈ Menu.menu.subtrees, item.2.Sublist (part.item.properties s) := by
  obtain ⟨id, -, hitem⟩ := List.mem_filterMap.1 h
  obtain ⟨part, hpart, rfl⟩ := Option.map_eq_some_iff.1 hitem
  refine ⟨part, (Menu.find?_eq_some hpart).1, ?_⟩
  change (Menu.restrict names _).Sublist _
  rw [Menu.restrict]
  split
  · exact .refl _
  · exact List.filter_sublist

/-- However the menu is read, the same is told of its items. -/
theorem readsAgree (tray : Tray) : ReadsAgree tray where
  node names node h := group_of_isRead h
  property names node h := by
    obtain ⟨part, hpart, hid, -⟩ := h.exists_item
    refine ⟨part.item.properties tray.state, ?_, fun name => ?_⟩
    · rw [hid, Menu.group_singleton, Menu.find?_of_mem_subtrees hpart]
      rfl
    · rw [answer_propertyRequest, Menu.property?, hid, Menu.find?_of_mem_subtrees hpart]
      rfl
  nonempty ids names item hitem entry hentry := by
    obtain ⟨part, hpart, hsublist⟩ := mem_group hitem
    have hne := Menu.Item.ne_empty_of_mem_properties (Menu.isShown_of_mem_subtrees part hpart)
      tray.state entry (hsublist.subset hentry)
    intro hempty
    obtain ⟨name, value⟩ := entry
    cases value with
    | text s => exact hne (congrArg Menu.PropertyValue.text (Value.string.inj hempty))
    | flag b => exact nomatch hempty
    | number n => exact nomatch hempty
  distinct ids names item hitem := by
    obtain ⟨part, -, hsublist⟩ := mem_group hitem
    have hascending := (part.item.ascending_properties tray.state).sublist hsublist
    rw [List.nodup_iff_pairwise_ne, List.pairwise_map]
    refine hascending.imp fun {entry other} hlt heq => ?_
    rw [heq] at hlt
    exact String.lt_irrefl _ hlt
  order ids names := Menu.map_fst_group tray.state names ids
  each ids names := Menu.group_eq_flatMap tray.state ids names
  restricted ids names h := Menu.group_of_ne_nil tray.state ids h
  layoutAnswer parent depth names hnames revision layout hlayout := by
    rw [answer_layoutRequest, if_neg fun ⟨name, hname, hzero⟩ => hnames name hname hzero, hlayout]
  groupAnswer ids names hnames := by
    rw [answer_groupRequest, if_neg fun ⟨name, hname, hzero⟩ => hnames name hname hzero]

/-- A single property is not always answered: its name may hold the character U+0000, which no
    item has a property for. -/
theorem answer_zeroName :
    let request : Message :=
      { path := some "/MenuBar"
        interface := some "com.canonical.dbusmenu"
        member := some "GetProperty"
        body := [.int32 1, .string "\x00"] }
    (∃ node, IsRead ({} : Tray).state [] node ∧ node.id = 1 ∧
        node.properties.lookup "\x00" = none) ∧
      answer request {} ≠ .ok (.value (.string "")) := by
  refine ⟨⟨(Menu.Tree.node Menu.toggleItem []).layout {} [] 0, ?_, rfl, by decide⟩, nofun⟩
  refine ⟨1, 0, 1, (Menu.Tree.node Menu.toggleItem []).layout {} [] 0, rfl, ?_⟩
  rw [Menu.Tree.layout, Menu.Layout.nodes_node]
  exact List.mem_cons_self

end VpnTray.Bus
