import Mathlib.Data.List.Nodup
import VpnTray.Menu.Layout

/-!
# The items of the menu

Each item of the menu is found by its number, and so is each node of a layout, as a layout
shows items of the menu and nothing else. What an item shows always has a content: its
properties have different names, and no text among them is empty.

* `find?_of_mem_subtrees`: the items are found by their numbers;
* `exists_of_mem_nodes`: a node of a layout shows an item below the one that was asked for;
* `Item.ascending_properties`, `ne_empty_of_mem_properties`: what the properties of items
  are like, in any state.
-/

namespace VpnTray.Menu

/-- A list is gone through to the end if nothing in it fails. -/
theorem mapM_eq_some_map {α β : Type} {f : α → Option β} {g : α → β} {l : List α}
    (h : ∀ a ∈ l, f a = some (g a)) : l.mapM f = some (l.map g) := by
  induction l with
  | nil => rfl
  | cons a l ih =>
    obtain ⟨ha, hl⟩ := List.forall_mem_cons.1 h
    rw [List.mapM_cons, ha, ih hl]
    rfl

/-! ## Trees -/

namespace Tree

/-- What holds of an item whenever it holds of the items right below it holds of all items. -/
theorem induction {P : Tree → Prop}
    (h : ∀ item children, (∀ child ∈ children, P child) → P (node item children)) :
    ∀ tree, P tree
  | node item children => h item children fun child _ => induction h child

theorem self_mem_subtrees (tree : Tree) : tree ∈ tree.subtrees := by
  cases tree with
  | node item children =>
    rw [subtrees_node]
    exact List.mem_cons_self

theorem mem_subtrees_of_mem {item : Item} {children : List Tree} {child part : Tree}
    (hchild : child ∈ children) (hpart : part ∈ child.subtrees) :
    part ∈ (node item children).subtrees := by
  rw [subtrees_node]
  exact List.mem_cons_of_mem _ (List.mem_flatMap.2 ⟨child, hchild, hpart⟩)

theorem subtrees_trans {tree part piece : Tree} (hpart : part ∈ tree.subtrees)
    (hpiece : piece ∈ part.subtrees) : piece ∈ tree.subtrees := by
  induction tree using Tree.induction with
  | h item children ih =>
    rw [subtrees_node] at hpart
    rcases List.mem_cons.1 hpart with rfl | hpart
    · exact hpiece
    · obtain ⟨child, hchild, hpart⟩ := List.mem_flatMap.1 hpart
      exact mem_subtrees_of_mem hchild (ih child hchild hpart)

end Tree

/-! ## Layouts -/

namespace Layout

/-- What holds of a node whenever it holds of the nodes right below it holds of all nodes. -/
theorem induction {P : Layout → Prop}
    (h : ∀ id properties children,
      (∀ child ∈ children, P child) → P (node id properties children)) :
    ∀ layout, P layout
  | node id properties children => h id properties children fun child _ => induction h child

mutual

/-- The nodes of a layout, each before those below it. -/
def nodes : Layout → List Layout
  | node id properties children => node id properties children :: nodesOfList children

/-- The nodes of some layouts. -/
def nodesOfList : List Layout → List Layout
  | [] => []
  | layout :: layouts => layout.nodes ++ nodesOfList layouts

end

theorem nodesOfList_eq_flatMap (layouts : List Layout) :
    nodesOfList layouts = layouts.flatMap nodes := by
  induction layouts with
  | nil => rfl
  | cons layout layouts ih => rw [nodesOfList, ih, List.flatMap_cons]

@[simp] theorem nodes_node (id : Int32) (properties : Properties) (children : List Layout) :
    (node id properties children).nodes =
      node id properties children :: children.flatMap nodes := by
  rw [nodes, nodesOfList_eq_flatMap]

end Layout

variable {s : State} {names : List String}

theorem layoutOfList_eq_map (s : State) (names : List String) (depth : Int32)
    (trees : List Tree) :
    layoutOfList s names depth trees = trees.map (Tree.layout s names depth) := by
  induction trees with
  | nil => rfl
  | cons tree trees ih => rw [layoutOfList, ih, List.map_cons]

/-- A node of a layout shows an item of the tree, with its properties. -/
theorem exists_of_mem_nodes {tree : Tree} {depth : Int32} {node : Layout}
    (h : node ∈ (tree.layout s names depth).nodes) :
    ∃ part ∈ tree.subtrees, node.id = part.id ∧
      node.properties = restrict names (part.item.properties s) := by
  induction tree using Tree.induction generalizing depth with
  | h item children ih =>
    rw [Tree.layout, Layout.nodes_node] at h
    rcases List.mem_cons.1 h with rfl | h
    · exact ⟨.node item children, Tree.self_mem_subtrees _, rfl, rfl⟩
    · obtain ⟨below, hbelow, hnode⟩ := List.mem_flatMap.1 h
      split at hbelow
      · exact nomatch hbelow
      · rw [layoutOfList_eq_map] at hbelow
        obtain ⟨child, hchild, rfl⟩ := List.mem_map.1 hbelow
        obtain ⟨part, hpart, hshown⟩ := ih child hchild hnode
        exact ⟨part, Tree.mem_subtrees_of_mem hchild hpart, hshown⟩

/-! ## The menu of the tray -/

/-- The numbers of the items of the menu. -/
def ids : List Int32 := menu.subtrees.map Tree.id

theorem nodup_ids : ids.Nodup := by decide

theorem find?_eq_some {id : Int32} {tree : Tree} (h : menu.find? id = some tree) :
    tree ∈ menu.subtrees ∧ tree.id = id := by
  rw [Tree.find?] at h
  have hid := List.find?_some h
  exact ⟨List.mem_of_find?_eq_some h, eq_of_beq hid⟩

theorem find?_of_mem_subtrees {part : Tree} (h : part ∈ menu.subtrees) :
    menu.find? part.id = some part := by
  have hsome : (menu.find? part.id).isSome :=
    List.find?_isSome.2 ⟨part, h, beq_self_eq_true part.id⟩
  obtain ⟨found, hfound⟩ := Option.isSome_iff_exists.1 hsome
  obtain ⟨hmem, hid⟩ := find?_eq_some hfound
  exact hfound.trans (congrArg some (List.inj_on_of_nodup_map nodup_ids hmem h hid))

theorem isSome_find? (id : Int32) : (menu.find? id).isSome ↔ id ∈ ids := by
  rw [Tree.find?, List.find?_isSome, ids, List.mem_map]
  simp only [beq_iff_eq]

/-! ## Properties -/

/-- A label always has a text. -/
def Label.IsShown : Label → Prop
  | fixed text => text ≠ ""
  | byConnection connected disconnected => connected ≠ "" ∧ disconnected ≠ ""
  | network | connectionTime => True

instance : DecidablePred Label.IsShown
  | .fixed text => inferInstanceAs (Decidable (text ≠ ""))
  | .byConnection connected disconnected =>
    inferInstanceAs (Decidable (connected ≠ "" ∧ disconnected ≠ ""))
  | .network | .connectionTime => inferInstanceAs (Decidable True)

theorem Label.text_ne_empty {label : Label} (h : label.IsShown) (s : State) :
    label.text s ≠ "" := by
  cases label with
  | fixed text => exact h
  | byConnection connected disconnected =>
    change (if s.connected then connected else disconnected) ≠ ""
    split
    · exact h.1
    · exact h.2
  | network =>
    change "Network: " ++ s.network.getD "-" ≠ ""
    simp
  | connectionTime =>
    change "Connected for: " ++ s.connectionTime.getD "just now" ≠ ""
    simp

theorem isShown_of_mem_subtrees :
    ∀ part ∈ menu.subtrees, ∀ label ∈ part.item.label, label.IsShown := by
  decide

/-- The names of all properties, in ascending order. -/
def propertyNames : List String :=
  ["children-display", "enabled", "label", "toggle-state", "toggle-type", "type", "visible"]

theorem ascending_propertyNames : propertyNames.Pairwise (· < ·) := by
  decide

theorem Item.sublist_propertyNames (item : Item) (s : State) :
    ((item.properties s).map Prod.fst).Sublist propertyNames := by
  rcases item with ⟨id, kind, label, enabled, visible, checkmark, action⟩
  cases kind <;> cases label <;> cases checkmark <;> exact List.isSublist_iff_sublist.1 rfl

/-- The names of the properties of an item ascend. -/
theorem Item.ascending_properties (item : Item) (s : State) :
    (item.properties s).Pairwise fun entry other => entry.1 < other.1 :=
  List.pairwise_map.1 (ascending_propertyNames.sublist (item.sublist_propertyNames s))

/-- No text among the properties of an item is empty, as long as its label has a text. -/
theorem Item.ne_empty_of_mem_properties {item : Item} (h : ∀ label ∈ item.label, label.IsShown)
    (s : State) : ∀ entry ∈ item.properties s, entry.2 ≠ .text "" := by
  rcases item with ⟨id, kind, _ | label, enabled, visible, checkmark, action⟩
  · cases kind <;> cases checkmark <;> simp [Item.properties, Item.labelProperties]
  · have htext := Label.text_ne_empty (h label rfl) s
    cases kind <;> cases checkmark <;> simp [Item.properties, Item.labelProperties, htext]

/-! ## Reading several items -/

/-- What is read of several items is what is read of each of them, in their order. -/
theorem group_eq_flatMap (s : State) (ids : List Int32) (names : List String) :
    group s ids names = ids.flatMap fun id => group s [id] names := by
  induction ids with
  | nil => rfl
  | cons id ids ih =>
    rw [List.flatMap_cons, ← ih, group, List.filterMap_cons, group, group, List.filterMap_cons]
    rcases menu.find? id with _ | tree <;> rfl

/-- Of an item that is there its properties are read, and of any other nothing. -/
theorem group_singleton (s : State) (id : Int32) (names : List String) :
    group s [id] names = ((menu.find? id).map fun tree =>
      (id, restrict names (tree.item.properties s))).toList := by
  rw [group, List.filterMap_cons]
  rcases hfind : menu.find? id with _ | tree
  · rfl
  · rw [← (find?_eq_some hfind).2]
    rfl

theorem map_fst_group (s : State) (names : List String) (asked : List Int32) :
    (group s asked names).map Prod.fst = asked.filter (· ∈ ids) := by
  induction asked with
  | nil => rfl
  | cons id asked ih =>
    rw [group_eq_flatMap, List.flatMap_cons, ← group_eq_flatMap, List.map_append, ih,
      group_singleton]
    by_cases hid : id ∈ ids
    · obtain ⟨tree, htree⟩ := Option.isSome_iff_exists.1 ((isSome_find? id).2 hid)
      rw [htree, List.filter_cons, if_pos (decide_eq_true hid)]
      rfl
    · have hnone : menu.find? id = none := by
        rwa [← Option.not_isSome_iff_eq_none, isSome_find?]
      rw [hnone, List.filter_cons, if_neg (mt of_decide_eq_true hid)]
      rfl

/-- Names restrict what is read of each item to the properties that have one of them. -/
theorem group_of_ne_nil (s : State) (asked : List Int32) (h : names ≠ []) :
    group s asked names =
      (group s asked []).map fun item => (item.1, item.2.filter (·.1 ∈ names)) := by
  rw [group, group, List.map_filterMap]
  refine List.filterMap_congr fun id _ => ?_
  rw [Option.map_map]
  refine congrArg (Option.map · (menu.find? id)) (funext fun tree => ?_)
  have hnames : names.isEmpty = false := by
    rw [List.isEmpty_eq_false_iff]
    exact h
  rw [Function.comp_apply, restrict, hnames]
  rfl

end VpnTray.Menu
