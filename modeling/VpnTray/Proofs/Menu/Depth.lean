import Mathlib.Data.List.ReduceOption
import VpnTray.Proofs.Menu.Items

/-!
# The menu at all depths

A layout shows what is below an item down to some depth. Without a limit it shows everything,
and with one it is the same layout cut at this depth.

The items can also be kept as a table, in which each of them only has the numbers of those
below it. Who reads a layout from such a table follows numbers from item to item, and may go
round in circles if there is no limit. In the table of the menu the numbers lead back nowhere,
as it is that of a tree: at most three items are read below one another.

* `Table.layout`: the layout that is read from a table;
* `layout_menuTable`: the layout that is read from the table of the menu is that of the menu;
* `layout_of_neg`, `layout_of_toInt`: layouts without a limit, and with one;
* `shownAtDepths`: what the layouts of the menu are at all depths.
-/

namespace VpnTray.Menu

/-! ## Tables -/

/-- An item in a table, with the numbers of the items right below it. -/
structure Entry where
  item : Item
  below : List Int32

/-- Items, which are found by their numbers. -/
abbrev Table := List Entry

namespace Table

/-- The item with a number. -/
def find? (table : Table) (id : Int32) : Option Entry := List.find? (·.item.id == id) table

/-- The layout below a number that is read from a table, if at most `levels` items have to be
    read below one another for it. A number that is not in the table has no layout. -/
def layout (table : Table) (s : State) (names : List String) :
    (levels : Nat) → (depth id : Int32) → Option (Option Layout)
  | 0, _, _ => none
  | levels + 1, depth, id =>
    match table.find? id with
    | none => some none
    | some entry => do
      let below ← (if depth = 0 then [] else entry.below).mapM
        (table.layout s names levels (deeper depth))
      return some (.node id (restrict names (entry.item.properties s)) below.reduceOption)

end Table

/-- The items of the menu in a table. -/
def menuTable : Table := menu.subtrees.map fun tree => ⟨tree.item, tree.children.map Tree.id⟩

theorem find?_menuTable (id : Int32) :
    menuTable.find? id =
      (menu.find? id).map fun tree => ⟨tree.item, tree.children.map Tree.id⟩ := by
  rw [Table.find?, menuTable, List.find?_map]
  rfl

/-! ## The height of a tree -/

mutual

/-- How many items there are below one another under the top of a tree. -/
def Tree.height : Tree → Nat
  | .node _ children => heightOfList children

/-- The same from the tops of some trees on. -/
def heightOfList : List Tree → Nat
  | [] => 0
  | tree :: trees => max (tree.height + 1) (heightOfList trees)

end

theorem height_lt_heightOfList {trees : List Tree} {tree : Tree} (h : tree ∈ trees) :
    tree.height < heightOfList trees := by
  induction trees with
  | nil => cases h
  | cons first trees ih =>
    rw [heightOfList]
    rcases List.mem_cons.1 h with rfl | h
    · omega
    · have hrest := ih h
      omega

theorem Tree.height_lt_of_mem (item : Item) {children : List Tree} {child : Tree}
    (h : child ∈ children) : child.height < (node item children).height := by
  rw [height]
  exact height_lt_heightOfList h

theorem Tree.height_le_of_mem_subtrees {tree part : Tree} (h : part ∈ tree.subtrees) :
    part.height ≤ tree.height := by
  induction tree using Tree.induction with
  | h item children ih =>
    rw [subtrees_node] at h
    rcases List.mem_cons.1 h with rfl | h
    · exact Nat.le_refl _
    · obtain ⟨child, hchild, hpart⟩ := List.mem_flatMap.1 h
      exact Nat.le_trans (ih child hchild hpart) (Nat.le_of_lt (height_lt_of_mem item hchild))

theorem height_menu : menu.height = 2 := rfl

/-! ## Following the numbers -/

variable {s : State} {names : List String}

/-- Each number in the table leads to an item further down in the tree, so that following the
    numbers comes to an end, also without a limit. -/
theorem layout_menuTable_of_mem {part : Tree} (hpart : part ∈ menu.subtrees) {levels : Nat}
    (hlevels : part.height < levels) (depth : Int32) :
    menuTable.layout s names levels depth part.id = some (some (part.layout s names depth)) := by
  induction part using Tree.induction generalizing levels depth with
  | h item children ih =>
    cases levels with
    | zero => exact absurd hlevels (Nat.not_lt_zero _)
    | succ levels =>
      have hbelow : ∀ child ∈ children, menuTable.layout s names levels (deeper depth) child.id =
          some (some (child.layout s names (deeper depth))) := by
        intro child hchild
        have hmem : child ∈ menu.subtrees := Tree.subtrees_trans hpart
          (Tree.mem_subtrees_of_mem hchild child.self_mem_subtrees)
        have hheight := Tree.height_lt_of_mem item hchild
        exact ih child hchild hmem (by omega) (deeper depth)
      have hread : (children.map Tree.id).mapM (menuTable.layout s names levels (deeper depth)) =
          some (children.map fun child => some (child.layout s names (deeper depth))) := by
        rw [List.mapM_map]
        exact mapM_eq_some_map hbelow
      rw [Table.layout, find?_menuTable, find?_of_mem_subtrees hpart, Tree.layout,
        layoutOfList_eq_map]
      by_cases hdepth : depth = 0
      · simp [hdepth, Tree.id, Tree.item]
      · simp only [Option.map_some, Tree.children, Tree.item, if_neg hdepth, hread]
        simp [Tree.id, Tree.item, List.reduceOption]

/-- The layout that is read from the table is that of the menu, and it is read to the end after
    at most three items below one another, at any depth. -/
theorem layout_menuTable (id : Int32) {levels : Nat} (hlevels : menu.height < levels)
    (depth : Int32) :
    menuTable.layout s names levels depth id =
      some ((layout? s id depth names).map Prod.snd) := by
  cases hfind : menu.find? id with
  | none =>
    obtain ⟨levels, rfl⟩ := Nat.exists_eq_succ_of_ne_zero (Nat.ne_zero_of_lt hlevels)
    rw [Table.layout, find?_menuTable, layout?, hfind]
    rfl
  | some tree =>
    obtain ⟨hmem, rfl⟩ := find?_eq_some hfind
    have hheight := Tree.height_le_of_mem_subtrees hmem
    rw [layout_menuTable_of_mem hmem (Nat.lt_of_le_of_lt hheight hlevels), layout?, hfind]
    rfl

/-! ## Layouts that are cut -/

namespace Layout

mutual

/-- A layout without the nodes that are more than some levels below its top. -/
def cut : (levels : Nat) → Layout → Layout
  | 0, node id properties _ => node id properties []
  | levels + 1, node id properties children => node id properties (cutAll levels children)

/-- The same for some layouts. -/
def cutAll (levels : Nat) : List Layout → List Layout
  | [] => []
  | layout :: layouts => layout.cut levels :: cutAll levels layouts

end

theorem cutAll_eq_map (levels : Nat) (layouts : List Layout) :
    cutAll levels layouts = layouts.map (cut levels) := by
  induction layouts with
  | nil => rfl
  | cons layout layouts ih => rw [cutAll, ih, List.map_cons]

variable {id : Int32} {properties : Properties} {children : List Layout}

@[simp] theorem cut_zero : (node id properties children).cut 0 = node id properties [] := by
  rw [cut]

@[simp] theorem cut_succ (levels : Nat) : (node id properties children).cut (levels + 1) =
    node id properties (children.map (cut levels)) := by
  rw [cut, cutAll_eq_map]

/-- The lesser of two cuts counts. -/
theorem cut_cut (m n : Nat) (layout : Layout) : (layout.cut n).cut m = layout.cut (min m n) := by
  induction layout using Layout.induction generalizing m n with
  | h id properties children ih =>
    cases n with
    | zero => cases m <;> simp
    | succ n =>
      cases m with
      | zero => simp
      | succ m =>
        rw [cut_succ, cut_succ, Nat.succ_min_succ, cut_succ, List.map_map]
        refine congrArg (node id properties) (List.map_congr_left fun child hchild => ?_)
        exact ih child hchild m n

mutual

/-- The nodes of a layout in their order, each with its level, its number and its properties. -/
def outline (level : Nat) : Layout → List (Nat × Int32 × Properties)
  | node id properties children => (level, id, properties) :: outlineOfList (level + 1) children

/-- The same for some layouts. -/
def outlineOfList (level : Nat) : List Layout → List (Nat × Int32 × Properties)
  | [] => []
  | layout :: layouts => layout.outline level ++ outlineOfList level layouts

end

theorem outlineOfList_eq_flatMap (level : Nat) (layouts : List Layout) :
    outlineOfList level layouts = layouts.flatMap (outline level) := by
  induction layouts with
  | nil => rfl
  | cons layout layouts ih => rw [outlineOfList, ih, List.flatMap_cons]

@[simp] theorem outline_node (level : Nat) : (node id properties children).outline level =
    (level, id, properties) :: children.flatMap (outline (level + 1)) := by
  rw [outline, outlineOfList_eq_flatMap]

theorem le_of_mem_outline {layout : Layout} {level : Nat} {entry : Nat × Int32 × Properties}
    (h : entry ∈ layout.outline level) : level ≤ entry.1 := by
  induction layout using Layout.induction generalizing level with
  | h id properties children ih =>
    rw [outline_node] at h
    rcases List.mem_cons.1 h with rfl | h
    · exact Nat.le_refl _
    · obtain ⟨child, hchild, hentry⟩ := List.mem_flatMap.1 h
      exact Nat.le_of_succ_le (ih child hchild hentry)

/-- A cut leaves out the nodes that are further down, and changes nothing else. -/
theorem outline_cut (layout : Layout) (levels level : Nat) :
    (layout.cut levels).outline level =
      (layout.outline level).filter (·.1 ≤ level + levels) := by
  induction layout using Layout.induction generalizing levels level with
  | h id properties children ih =>
    cases levels with
    | zero =>
      have hbelow : ∀ entry ∈ children.flatMap (outline (level + 1)), ¬entry.1 ≤ level := by
        intro entry hentry
        obtain ⟨child, -, hentry⟩ := List.mem_flatMap.1 hentry
        exact Nat.not_le_of_lt (le_of_mem_outline hentry)
      simpa using hbelow
    | succ levels =>
      have heach : ∀ child ∈ children, (child.cut levels).outline (level + 1) =
          (child.outline (level + 1)).filter (·.1 ≤ level + (levels + 1)) := by
        intro child hchild
        rw [ih child hchild, Nat.add_right_comm, Nat.add_assoc]
      rw [cut_succ, outline_node, outline_node, List.flatMap_map, List.filter_cons_of_pos (by simp),
        List.filter_flatMap, List.flatMap_congr heach]

end Layout

/-! ## Layouts with a limit and without one -/

theorem deeper_of_neg {depth : Int32} (h : depth < 0) : deeper depth = depth := if_pos h

theorem toInt_deeper {depth : Int32} {n : Nat} (h : depth.toInt = n + 1) :
    (deeper depth).toInt = n := by
  have hdepth : ¬depth < 0 := by
    rw [Int32.lt_iff_toInt_lt, h, Int32.toInt_zero]
    omega
  have hlt := depth.toInt_lt
  have hone : (1 : Int32).toInt = 1 := rfl
  rw [deeper, if_neg hdepth, Int32.toInt_sub, h, hone, Int.bmod_eq_of_le (by omega) (by omega)]
  omega

theorem layout_of_ne_zero {depth : Int32} (h : depth ≠ 0) (item : Item) (children : List Tree) :
    (Tree.node item children).layout s names depth =
      .node item.id (restrict names (item.properties s))
        (children.map (Tree.layout s names (deeper depth))) := by
  rw [Tree.layout, if_neg h, layoutOfList_eq_map]

theorem layout_unlimited (s : State) (names : List String) (item : Item) (children : List Tree) :
    (Tree.node item children).layout s names (-1) =
      .node item.id (restrict names (item.properties s))
        (children.map (Tree.layout s names (-1))) :=
  layout_of_ne_zero (by decide) item children

/-- Every negative depth says that there is no limit. -/
theorem layout_of_neg {depth : Int32} (h : depth < 0) (tree : Tree) :
    tree.layout s names depth = tree.layout s names (-1) := by
  induction tree using Tree.induction with
  | h item children ih =>
    rw [layout_of_ne_zero (Int32.ne_of_lt h), deeper_of_neg h, layout_unlimited,
      List.map_congr_left ih]

/-- A layout with a limit is the one without, cut at the limit. -/
theorem layout_of_toInt {depth : Int32} {n : Nat} (h : depth.toInt = n) (tree : Tree) :
    tree.layout s names depth = (tree.layout s names (-1)).cut n := by
  induction tree using Tree.induction generalizing depth n with
  | h item children ih =>
    rw [layout_unlimited]
    cases n with
    | zero =>
      obtain rfl : depth = 0 := Int32.toInt_inj.1 h
      rw [Layout.cut_zero, Tree.layout, if_pos rfl]
    | succ n =>
      have hdepth : depth ≠ 0 := by
        rintro rfl
        rw [Int32.toInt_zero] at h
        omega
      rw [layout_of_ne_zero hdepth, Layout.cut_succ, List.map_map]
      exact congrArg _ (List.map_congr_left fun child hchild => ih child hchild (toInt_deeper h))

/-- There is nothing to cut where a menu ends. -/
theorem cut_layout {tree : Tree} {n : Nat} (h : tree.height ≤ n) :
    (tree.layout s names (-1)).cut n = tree.layout s names (-1) := by
  induction tree using Tree.induction generalizing n with
  | h item children ih =>
    rw [layout_unlimited]
    cases n with
    | zero =>
      have hnone : children = [] := by
        refine List.eq_nil_iff_forall_not_mem.2 fun child hchild => ?_
        have hheight := Tree.height_lt_of_mem item hchild
        omega
      rw [hnone, Layout.cut_zero, List.map_nil]
    | succ n =>
      rw [Layout.cut_succ, List.map_map]
      refine congrArg _ (List.map_congr_left fun child hchild => ih child hchild ?_)
      have hheight := Tree.height_lt_of_mem item hchild
      omega

/-- Without a limit each item below is shown, with all that is below it. -/
theorem nodes_unlimited (s : State) (names : List String) (tree : Tree) :
    (tree.layout s names (-1)).nodes = tree.subtrees.map (Tree.layout s names (-1)) := by
  induction tree using Tree.induction with
  | h item children ih =>
    rw [Tree.subtrees_node, List.map_cons, List.map_flatMap, layout_unlimited, Layout.nodes_node,
      List.flatMap_map, List.flatMap_congr ih]

theorem id_layout (depth : Int32) (tree : Tree) : (tree.layout s names depth).id = tree.id := by
  cases tree
  rfl

theorem map_id_layout (depth : Int32) (trees : List Tree) :
    (trees.map (Tree.layout s names depth)).map Layout.id = trees.map Tree.id := by
  rw [List.map_map]
  exact List.map_congr_left fun tree _ => id_layout depth tree

/-! ## The menu at all depths -/

/-- What is shown below an item of the menu at all depths, where `full` is what is shown without
    a limit. -/
structure Unfolds (s : State) (names : List String) (parent : Int32) (full : Layout) : Prop where
  /-- Every negative depth shows the same. -/
  unlimited : ∀ depth < 0, layout? s parent depth names = some (s.revision, full)
  /-- The nodes show items of the table, with all that is below them in the order of the table. -/
  complete : ∀ node ∈ full.nodes, ∃ entry, menuTable.find? node.id = some entry ∧
    node.properties = restrict names (entry.item.properties s) ∧
    node.children.map Layout.id = entry.below
  /-- Below the root each item of the table is shown once. -/
  once : parent = rootId → ∀ entry ∈ menuTable,
    (full.nodes.map Layout.id).count entry.item.id = 1
  /-- With a limit the nodes that are further down are left out, and nothing else is changed. -/
  limited : ∀ (depth : Int32) (n : Nat), depth.toInt = n → ∃ layout,
    layout? s parent depth names = some (s.revision, layout) ∧ layout = full.cut n ∧
      layout.outline 0 = (full.outline 0).filter (·.1 ≤ n)
  /-- What is shown down to some depth is what is shown further down as well, up to there. -/
  grows : ∀ (depth further : Int32) (n : Nat), depth.toInt = n → depth ≤ further →
    ∃ layout more, layout? s parent depth names = some (s.revision, layout) ∧
      layout? s parent further names = some (s.revision, more) ∧ layout = more.cut n
  /-- From some depth on everything is shown. -/
  reached : ∀ depth : Int32, 2 ≤ depth → layout? s parent depth names = some (s.revision, full)

variable {tree : Tree}

theorem layout?_of_mem (h : tree ∈ menu.subtrees) (depth : Int32) :
    layout? s tree.id depth names = some (s.revision, tree.layout s names depth) := by
  rw [layout?, find?_of_mem_subtrees h]
  rfl

theorem layout?_of_toInt (h : tree ∈ menu.subtrees) {depth : Int32} {n : Nat}
    (hdepth : depth.toInt = n) :
    layout? s tree.id depth names = some (s.revision, (tree.layout s names (-1)).cut n) := by
  rw [layout?_of_mem h, layout_of_toInt hdepth]

theorem exists_toInt_eq {depth further : Int32} {n : Nat} (hdepth : depth.toInt = n)
    (h : depth ≤ further) : ∃ m : Nat, further.toInt = m ∧ n ≤ m := by
  rw [Int32.le_iff_toInt_le, hdepth] at h
  obtain ⟨m, hm⟩ := Int.eq_ofNat_of_zero_le (Int.le_trans (Int.natCast_nonneg n) h)
  exact ⟨m, hm, by omega⟩

/-- A node that is shown without a limit has all below it that the table has below its number. -/
theorem exists_entry_of_mem_nodes (h : tree ∈ menu.subtrees) {node : Layout}
    (hnode : node ∈ (tree.layout s names (-1)).nodes) :
    ∃ entry, menuTable.find? node.id = some entry ∧
      node.properties = restrict names (entry.item.properties s) ∧
      node.children.map Layout.id = entry.below := by
  rw [nodes_unlimited] at hnode
  obtain ⟨part, hpart, rfl⟩ := List.mem_map.1 hnode
  refine ⟨⟨part.item, part.children.map Tree.id⟩, ?_, ?_⟩
  · rw [id_layout, find?_menuTable, find?_of_mem_subtrees (Tree.subtrees_trans h hpart)]
    rfl
  · cases part with
    | node item children =>
      rw [layout_unlimited]
      exact ⟨rfl, map_id_layout (-1) children⟩

/-- Below the root, the nodes that are shown without a limit have the numbers of the items. -/
theorem map_id_nodes_menu (s : State) (names : List String) :
    (menu.layout s names (-1)).nodes.map Layout.id = menuTable.map (·.item.id) := by
  rw [nodes_unlimited, map_id_layout, menuTable, List.map_map]
  rfl

theorem nodup_menuTable : (menuTable.map (·.item.id)).Nodup := by
  rw [menuTable, List.map_map]
  exact nodup_ids

theorem unfolds_of_mem (h : tree ∈ menu.subtrees) (s : State) (names : List String) :
    Unfolds s names tree.id (tree.layout s names (-1)) where
  unlimited depth hdepth := by rw [layout?_of_mem h, layout_of_neg hdepth]
  complete node hnode := exists_entry_of_mem_nodes h hnode
  once hparent entry hentry := by
    have hroot : menu.find? menu.id = some tree :=
      (congrArg menu.find? hparent).symm.trans (find?_of_mem_subtrees h)
    rw [Tree.find?_id] at hroot
    obtain rfl := Option.some.inj hroot
    rw [map_id_nodes_menu]
    exact List.count_eq_one_of_mem nodup_menuTable (List.mem_map.2 ⟨entry, hentry, rfl⟩)
  limited depth n hdepth := by
    refine ⟨_, layout?_of_toInt h hdepth, rfl, ?_⟩
    rw [Layout.outline_cut, Nat.zero_add]
  grows depth further n hdepth hfurther := by
    obtain ⟨m, hm, hle⟩ := exists_toInt_eq hdepth hfurther
    refine ⟨_, _, layout?_of_toInt h hdepth, layout?_of_toInt h hm, ?_⟩
    rw [Layout.cut_cut, Nat.min_eq_left hle]
  reached depth hdepth := by
    obtain ⟨m, hm, hle⟩ := exists_toInt_eq (n := 2) rfl hdepth
    have hheight := Tree.height_le_of_mem_subtrees h
    rw [height_menu] at hheight
    rw [layout?_of_toInt h hm, cut_layout (Nat.le_trans hheight hle)]

/-- The layouts of the menu at all depths, in a state. -/
structure ShownAtDepths (s : State) (names : List String) : Prop where
  /-- Who follows the numbers in the table comes to an end at every depth, with the layout. -/
  ends : ∀ parent depth levels, 3 ≤ levels → menuTable.layout s names levels depth parent =
    some ((layout? s parent depth names).map Prod.snd)
  /-- A number that is not in the table has no layout. -/
  unknown : ∀ parent depth, menuTable.find? parent = none → layout? s parent depth names = none
  /-- What is shown below a number of the table. -/
  known : ∀ parent entry, menuTable.find? parent = some entry →
    ∃ full, full.id = parent ∧ Unfolds s names parent full

/-- At every depth the menu is shown to the end, and as far as it is asked for. -/
theorem shownAtDepths (s : State) (names : List String) : ShownAtDepths s names where
  ends parent depth levels hlevels := layout_menuTable parent hlevels depth
  unknown parent depth hnone := by
    rw [find?_menuTable, Option.map_eq_none_iff] at hnone
    rw [layout?, hnone]
    rfl
  known parent entry hentry := by
    rw [find?_menuTable] at hentry
    obtain ⟨tree, htree, -⟩ := Option.map_eq_some_iff.1 hentry
    obtain ⟨hmem, rfl⟩ := find?_eq_some htree
    exact ⟨_, id_layout (-1) tree, unfolds_of_mem hmem s names⟩

/-- Only the root and the menu of the exit nodes have something below them. -/
example : (menuTable.filter (·.below ≠ [])).map (fun entry => (entry.item.id, entry.below)) =
    [(0, [1, 2, 14, 15, 4, 5, 16, 3, 18, 6, 7, 19, 8, 9, 17, 10, 11, 12, 13]),
      (6, [101, 102, 104, 103])] := by
  decide

/-- Who follows the numbers of an item that is below itself goes round in circles. -/
example : Table.layout [⟨{ id := 1 }, [1]⟩] {} [] 20 (-1) 1 = none := by
  decide

end VpnTray.Menu
