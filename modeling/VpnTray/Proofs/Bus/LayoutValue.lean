import VpnTray.Bus.Menu
import VpnTray.Proofs.Bus.Registry
import VpnTray.Proofs.Menu.Items

/-!
# Layouts on the bus

A layout goes over the bus as a structure, and each item below another one as a structure again,
in a value that could be of any type. The properties of an item are in a dictionary, which keeps
no order. Nothing is lost by this: the layout can be read from its value.

* `layoutOf?`: the layout that a value stands for;
* `IsLayout`: the form of such a value, in which each item has the type of a layout;
* `StandsFor`: the values of a layout, with its properties in any order;
* `layoutOf?_layoutValue`, `byName_of_standsFor`: what is read is the layout;
* `lossless_layoutValue`: all of it, for any layout.
-/

namespace VpnTray.Bus

/-! ## Reading a layout -/

/-- The property that a value stands for. -/
def propertyOf? : Value → Option Menu.PropertyValue
  | .string s => some (.text s)
  | .boolean b => some (.flag b)
  | .int32 n => some (.number n)
  | _ => none

/-- The property and its name that an entry of a dictionary stands for. -/
def entryOf? : Value × Value → Option (String × Menu.PropertyValue)
  | (.string name, .variant value) => (propertyOf? value).map (name, ·)
  | _ => none

mutual

/-- The layout that a value stands for, with the properties in the order of the dictionary. -/
def layoutOf? : Value → Option Menu.Layout
  | .struct [.int32 id, .dict .string .variant entries, .array .variant items] => do
    return .node id (← entries.mapM entryOf?) (← layoutsOf? items)
  | _ => none

/-- The layouts that some values stand for, each of which could be of any type. -/
def layoutsOf? : List Value → Option (List Menu.Layout)
  | [] => some []
  | .variant value :: values => do return (← layoutOf? value) :: (← layoutsOf? values)
  | _ :: _ => none

end

mutual

/-- A layout with the properties of each item in the order of their names. -/
def byName : Menu.Layout → Menu.Layout
  | .node id properties children => .node id (Names.putAll [] properties) (allByName children)

/-- The same for some layouts. -/
def allByName : List Menu.Layout → List Menu.Layout
  | [] => []
  | layout :: layouts => byName layout :: allByName layouts

end

theorem layoutValues_eq_map (layouts : List Menu.Layout) :
    layoutValues layouts = (layouts.map layoutValue).map .variant := by
  induction layouts with
  | nil => rfl
  | cons layout layouts ih => rw [layoutValues, ih, List.map_cons, List.map_cons]

theorem propertyOf?_propertyValue (value : Menu.PropertyValue) :
    propertyOf? (propertyValue value) = some value := by
  cases value <;> rfl

/-- The entry of a dictionary for a property. -/
def dictEntry (property : String × Menu.PropertyValue) : Value × Value :=
  (.string property.1, .variant (propertyValue property.2))

theorem properties_menuProperties (properties : Menu.Properties) :
    Value.properties (menuProperties properties) =
      .dict .string .variant (properties.map dictEntry) := by
  rw [Value.properties, menuProperties, List.map_map]
  rfl

theorem mapM_entryOf? (properties : Menu.Properties) :
    (properties.map dictEntry).mapM entryOf? = some properties := by
  have hentry : ∀ property ∈ properties, (entryOf? ∘ dictEntry) property = some property := by
    intro property _
    rw [Function.comp_apply, dictEntry, entryOf?, propertyOf?_propertyValue]
    rfl
  rw [List.mapM_map, Menu.mapM_eq_some_map hentry, List.map_id']

theorem layoutsOf?_map_layoutValue {layouts : List Menu.Layout}
    (h : ∀ layout ∈ layouts, layoutOf? (layoutValue layout) = some layout) :
    layoutsOf? ((layouts.map layoutValue).map .variant) = some layouts := by
  induction layouts with
  | nil => rfl
  | cons layout layouts ih =>
    obtain ⟨hlayout, hlayouts⟩ := List.forall_mem_cons.1 h
    rw [List.map_cons, List.map_cons, layoutsOf?, hlayout, ih hlayouts]
    rfl

theorem layoutOf?_struct (id : Int32) (properties : Menu.Properties) (items : List Value) :
    layoutOf? (.struct [.int32 id, .properties (menuProperties properties),
      .array .variant items]) = (layoutsOf? items).map (.node id properties) := by
  rw [properties_menuProperties, layoutOf?, mapM_entryOf?]
  cases layoutsOf? items <;> rfl

/-- The layout that is read from the value of a layout is this layout. -/
theorem layoutOf?_layoutValue (layout : Menu.Layout) :
    layoutOf? (layoutValue layout) = some layout := by
  induction layout using Menu.Layout.induction with
  | h id properties children ih =>
    rw [layoutValue, layoutValues_eq_map, layoutOf?_struct, layoutsOf?_map_layoutValue ih]
    rfl

/-! ## Dictionaries in any order -/

/-- A value stands for a layout, with the properties of each item in some order. -/
inductive StandsFor : Menu.Layout → Value → Prop
  | node {id : Int32} {properties shuffled : Menu.Properties} {children : List Menu.Layout}
      {values : List Value} (hproperties : shuffled.Perm properties)
      (hchildren : List.Forall₂ StandsFor children values) :
    StandsFor (.node id properties children)
      (.struct [.int32 id, .properties (menuProperties shuffled),
        .array .variant (values.map .variant)])

/-- What holds of a value and its layout whenever it holds of those right below them holds of all
    of them. -/
@[elab_as_elim]
theorem StandsFor.induction {P : Menu.Layout → Value → Prop}
    (h : ∀ id properties shuffled children values, shuffled.Perm properties →
      List.Forall₂ P children values →
      P (.node id properties children) (.struct [.int32 id, .properties (menuProperties shuffled),
        .array .variant (values.map .variant)]))
    {layout : Menu.Layout} {value : Value} (hstands : StandsFor layout value) :
    P layout value := by
  induction layout using Menu.Layout.induction generalizing value with
  | h id properties children ih =>
    rcases hstands with ⟨hperm, hvalues⟩
    refine h id properties _ children _ hperm ?_
    have hbelow := (List.forall₂_and_left children _).2
      ⟨fun child hchild => @ih child hchild, hvalues⟩
    exact hbelow.imp fun _ _ ⟨hchild, hvalue⟩ => hchild hvalue

theorem standsFor_layoutValue (layout : Menu.Layout) : StandsFor layout (layoutValue layout) := by
  induction layout using Menu.Layout.induction with
  | h id properties children ih =>
    rw [layoutValue, layoutValues_eq_map]
    exact .node (.refl properties) (List.forall₂_map_right_iff.2 (List.forall₂_same.2 ih))

/-- The properties of each item have different names, in ascending order. -/
def Ascends (layout : Menu.Layout) : Prop :=
  ∀ node ∈ layout.nodes, node.properties.Pairwise fun property other => property.1 < other.1

theorem ascends_node {id : Int32} {properties : Menu.Properties} {children : List Menu.Layout} :
    Ascends (.node id properties children) ↔
      (properties.Pairwise fun property other => property.1 < other.1) ∧
        ∀ child ∈ children, Ascends child := by
  rw [Ascends, Menu.Layout.nodes_node, List.forall_mem_cons]
  refine and_congr_right fun _ => ?_
  simp only [Ascends, List.mem_flatMap]
  exact ⟨fun h child hchild node hnode => h node ⟨child, hchild, hnode⟩,
    fun h node ⟨child, hchild, hnode⟩ => h child hchild node hnode⟩

/-- Properties with different names are put in order again. -/
theorem putAll_eq_of_perm {properties shuffled : Menu.Properties}
    (h : properties.Pairwise fun property other => property.1 < other.1)
    (hperm : shuffled.Perm properties) : Names.putAll [] shuffled = properties := by
  have hnodup : (properties.map Prod.fst).Nodup :=
    List.pairwise_map.2 (h.imp fun hlt => String.ne_of_lt hlt)
  have hput : (Names.putAll [] shuffled).Perm properties :=
    (Names.perm_putAll ((hperm.map Prod.fst).nodup_iff.2 hnodup)).trans hperm
  refine List.Perm.eq_of_pairwise (fun property other _ _ hlt hgt => ?_)
    (Names.ascending_putAll .nil shuffled) h hput
  exact absurd (String.lt_trans hlt hgt) (String.lt_irrefl _)

theorem map_layoutsOf? {layouts : List Menu.Layout} {values : List Value}
    (h : List.Forall₂ (fun layout value => (layoutOf? value).map byName = some layout)
      layouts values) :
    (layoutsOf? (values.map .variant)).map allByName = some layouts := by
  induction h with
  | nil => rfl
  | cons hvalue _ ih =>
    obtain ⟨read, hread, rfl⟩ := Option.map_eq_some_iff.1 hvalue
    obtain ⟨reads, hreads, rfl⟩ := Option.map_eq_some_iff.1 ih
    rw [List.map_cons, layoutsOf?, hread, hreads]
    rfl

/-- What is read of a value is the layout that it stands for, once the properties are in order. -/
theorem byName_of_standsFor {layout : Menu.Layout} {value : Value} (h : StandsFor layout value) :
    Ascends layout → (layoutOf? value).map byName = some layout := by
  refine StandsFor.induction (fun id properties shuffled children values hperm ih => ?_) h
  intro hascends
  obtain ⟨hproperties, hchildren⟩ := ascends_node.1 hascends
  -- What is read of the values below are the layouts below, once they are in order.
  have hbelow := (List.forall₂_and_left children values).2 ⟨hchildren, ih⟩
  obtain ⟨reads, hreads, rfl⟩ := Option.map_eq_some_iff.1
    (map_layoutsOf? (hbelow.imp fun _ _ ⟨hchild, hread⟩ => hread hchild))
  rw [layoutOf?_struct, hreads, Option.map_some, Option.map_some, byName,
    putAll_eq_of_perm hproperties hperm]

/-- A dictionary that has the label last. -/
example : (layoutOf? (.struct [.int32 12,
      .properties (menuProperties [("visible", .flag true), ("label", .text "Quit")]),
      .array .variant []])).map byName =
    some (.node 12 [("label", .text "Quit"), ("visible", .flag true)] []) := by
  rfl

/-! ## The types of layouts -/

/-- The form of a layout on the bus: a structure of a number, a dictionary and an array, in which
    each value holds a layout again. -/
inductive IsLayout : Value → Prop
  | struct (id : Int32) {entries : List (Value × Value)} {values : List Value}
      (hentries : ∀ entry ∈ entries, ∃ name value, entry = (.string name, .variant value))
      (hvalues : ∀ value ∈ values, IsLayout value) :
    IsLayout (.struct [.int32 id, .dict .string .variant entries,
      .array .variant (values.map .variant)])

theorem isLayout_of_standsFor {layout : Menu.Layout} {value : Value} (h : StandsFor layout value) :
    IsLayout value := by
  refine StandsFor.induction (fun id properties shuffled children values hperm ih => ?_) h
  rw [properties_menuProperties]
  refine .struct id (fun entry hentry => ?_) ?_
  · obtain ⟨property, -, rfl⟩ := List.mem_map.1 hentry
    exact ⟨property.1, propertyValue property.2, rfl⟩
  · have hvalues : List.Forall₂ (fun value _ => IsLayout value ∧ True) values children :=
      .flip (ih.imp fun _ _ hvalue => ⟨hvalue, trivial⟩)
    exact ((List.forall₂_and_left values children).1 hvalues).1

/-! ## Layouts of the menu -/

/-- The layouts that are read of the menu have their properties in order. -/
theorem ascends_of_layout? {s : State} {parent depth : Int32} {names : List String}
    {revision : UInt32} {layout : Menu.Layout}
    (h : Menu.layout? s parent depth names = some (revision, layout)) : Ascends layout := by
  obtain ⟨tree, -, heq⟩ := Option.map_eq_some_iff.1 h
  obtain rfl := (Prod.mk.inj heq).2
  intro node hnode
  obtain ⟨part, -, -, hproperties⟩ := Menu.exists_of_mem_nodes hnode
  have hitem := part.item.ascending_properties s
  rw [hproperties, Menu.restrict]
  split
  · exact hitem
  · exact hitem.filter _

/-- Nothing is lost of a layout on the bus. -/
structure Lossless : Prop where
  /-- A layout is read back from its value, with all its items in their order. -/
  decoded : ∀ layout, layoutOf? (layoutValue layout) = some layout
  /-- Different layouts have different values. -/
  injective : Function.Injective layoutValue
  /-- The value of a layout has the form of a layout, with the properties in any order. -/
  formed : ∀ layout, StandsFor layout (layoutValue layout) ∧
    ∀ value, StandsFor layout value → IsLayout value
  /-- Each item is a structure of this type, also if it has no properties or no items below it. -/
  typed : ∀ value, IsLayout value →
    (∃ fields, value = .struct fields) ∧ value.type.text = "(ia\x7bsv\x7dav)"
  /-- A layout is read back when its properties come in any order, as their names ascend. -/
  unordered : ∀ layout value, Ascends layout → StandsFor layout value →
    (layoutOf? value).map byName = some layout
  /-- No value stands for two layouts. -/
  distinct : ∀ layout other value, Ascends layout → Ascends other →
    StandsFor layout value → StandsFor other value → layout = other
  /-- The names ascend in all layouts of the menu. -/
  ascending : ∀ s parent depth names revision layout,
    Menu.layout? s parent depth names = some (revision, layout) → Ascends layout

/-- Layouts on the bus can be told apart, and read back from their values. -/
theorem lossless_layoutValue : Lossless where
  decoded := layoutOf?_layoutValue
  injective layout other h := by
    have hread := congrArg layoutOf? h
    rw [layoutOf?_layoutValue, layoutOf?_layoutValue] at hread
    exact Option.some.inj hread
  formed layout := ⟨standsFor_layoutValue layout, fun _ => isLayout_of_standsFor⟩
  typed value h := by
    cases h
    exact ⟨⟨_, rfl⟩, rfl⟩
  unordered layout value hascends h := byName_of_standsFor h hascends
  distinct layout other value hlayout hother h h' := by
    have hread := (byName_of_standsFor h hlayout).symm.trans (byName_of_standsFor h' hother)
    exact Option.some.inj hread
  ascending s parent depth names revision layout := ascends_of_layout?

end VpnTray.Bus
