import Mathlib.Algebra.Field.Basic
import Mathlib.Algebra.Order.Ring.Nat
import Mathlib.Algebra.Ring.Parity
import Mathlib.Data.List.Sort
import VpnTray.Icon.Polygon

/-!
# Filling a polygon

Coordinates are exact here: they are numbers of any field with an order. Whatever the polygon, a
line crosses it an even number of times, as going round it leads back to the side of the line where
it began (`even_size_crossings`). The positions ascend, so that a binary search finds how many of
them lie to the left of another one (`countLeft_eq_countP`). Together, nothing to the left of the
first position or to the right of the last one is inside.

No division by zero goes into a position: numbers that remember one (`Checked`) give the same
positions (`Checked.crossings_point`).
-/

namespace VpnTray.Icon

/-! ## Binary search -/

section Search

variable {α : Type} [LinearOrder α] {xs : Array α} {x : α}

theorem le_of_le_index (hsorted : xs.toList.Pairwise (· ≤ ·)) {i j : Nat} (hij : i ≤ j)
    (hj : j < xs.size) : xs[i] ≤ xs[j] := by
  obtain rfl | hlt := Nat.eq_or_lt_of_le hij
  · exact le_rfl
  · exact List.pairwise_iff_getElem.1 hsorted i j (Nat.lt_trans hlt hj) hj hlt

/-- The number `n` parts the positions to the left of `x` from the others. -/
structure IsParting (xs : Array α) (x : α) (n : Nat) : Prop where
  le : n ≤ xs.size
  left : ∀ i (h : i < xs.size), i < n → xs[i] < x
  right : ∀ i (h : i < xs.size), n ≤ i → x ≤ xs[i]

/-- The search narrows down the numbers between which the parting lies. -/
theorem isParting_searchLeft (hsorted : xs.toList.Pairwise (· ≤ ·)) {low high : Nat}
    (h : high ≤ xs.size) (hle : low ≤ high) (hleft : ∀ i (h : i < xs.size), i < low → xs[i] < x)
    (hright : ∀ i (h : i < xs.size), high ≤ i → x ≤ xs[i]) :
    IsParting xs x (searchLeft xs x low high h) := by
  fun_induction searchLeft xs x low high h with
  | case1 low high h hlt middle hmiddle hless ih =>
    refine ih hmiddle (fun i hi hlow => ?_) hright
    exact lt_of_le_of_lt (le_of_le_index hsorted (Nat.le_of_lt_succ hlow) _) hless
  | case2 low high h hlt middle hmiddle hless ih =>
    refine ih (by omega) hleft fun i hi hmiddle => ?_
    exact le_trans (not_lt.1 hless) (le_of_le_index hsorted hmiddle hi)
  | case3 low high h hlt =>
    obtain rfl : low = high := Nat.le_antisymm hle (Nat.le_of_not_lt hlt)
    exact ⟨h, hleft, hright⟩

theorem IsParting.eq_countP {n : Nat} (h : IsParting xs x n) : n = xs.toList.countP (· < x) := by
  have htake : (xs.toList.take n).countP (· < x) = n := by
    have hlength : (xs.toList.take n).length = n := List.length_take_of_le h.le
    conv_rhs => rw [← hlength]
    refine List.countP_eq_length.2 fun c hc => ?_
    obtain ⟨i, hi, rfl⟩ := List.mem_iff_getElem.1 hc
    rw [List.length_take] at hi
    simpa using h.left i (by simpa using (Nat.lt_min.1 hi).2) (Nat.lt_min.1 hi).1
  have hdrop : (xs.toList.drop n).countP (· < x) = 0 := by
    refine List.countP_eq_zero.2 fun c hc => ?_
    obtain ⟨i, hi, rfl⟩ := List.mem_iff_getElem.1 hc
    rw [List.length_drop] at hi
    simpa using h.right (n + i) (by simpa using Nat.add_lt_of_lt_sub' hi) (Nat.le_add_right n i)
  rw [← List.take_append_drop n xs.toList, List.countP_append, htake, hdrop, Nat.add_zero]

/-- The search finds how many of the positions lie to the left. -/
theorem countLeft_eq_countP (hsorted : xs.toList.Pairwise (· ≤ ·)) (x : α) :
    countLeft xs x = xs.toList.countP (· < x) :=
  have hparting : IsParting xs x (countLeft xs x) :=
    isParting_searchLeft hsorted (Nat.le_refl _) (Nat.zero_le _)
      (fun _ _ h => absurd h (Nat.not_lt_zero _)) fun _ hi h => absurd hi (Nat.not_lt_of_le h)
  hparting.eq_countP

end Search

/-! ## Edges -/

section Edges

variable {α : Type} {polygon : List (Point α)}

theorem length_edges (polygon : List (Point α)) : (edges polygon).length = polygon.length := by
  rw [edges, List.length_zip, List.length_append, List.length_drop, List.length_take]
  omega

/-- Each point has an edge to the next one, and the last point to the first one. -/
theorem exists_getElem?_edges {i : Nat} (h : i < polygon.length) :
    ∃ next ∈ polygon[(i + 1) % polygon.length]?, (edges polygon)[i]? = some (polygon[i], next) := by
  have hindex : (i + 1) % polygon.length < polygon.length := Nat.mod_lt _ (Nat.zero_lt_of_lt h)
  refine ⟨polygon[(i + 1) % polygon.length], List.getElem?_eq_getElem hindex, ?_⟩
  rw [edges, List.getElem?_zip_eq_some]
  refine ⟨List.getElem?_eq_getElem h, ?_⟩
  obtain hnext | hlast := Nat.lt_or_eq_of_le (Nat.succ_le_of_lt h)
  · rw [List.getElem?_append_left (by rw [List.length_drop]; omega), List.getElem?_drop,
      Nat.add_comm 1 i, List.getElem?_eq_getElem hnext]
    simp only [Nat.mod_eq_of_lt hnext]
  · rw [List.getElem?_append_right (by rw [List.length_drop]; omega), List.length_drop]
    have hfirst : i - (polygon.length - 1) = 0 := by omega
    rw [hfirst, List.getElem?_take_of_lt Nat.one_pos,
      List.getElem?_eq_getElem (Nat.zero_lt_of_lt h)]
    simp only [← hlast, Nat.succ_eq_add_one, Nat.mod_self]

end Edges

/-! ## Sides -/

/-- A walk changes sides an odd number of times if and only if it ends on the other side. -/
theorem odd_countP_walk {β : Type} (side : β → Bool) (first last : β) (between : List β) :
    Odd (((first :: between).zip (between ++ [last])).countP fun e => side e.1 != side e.2) ↔
      side first ≠ side last := by
  -- The walk goes on from the next point, on the same side as before or on the other one.
  induction between generalizing first with
  | nil => by_cases h : side first = side last <;> simp [h]
  | cons next between ih =>
    rw [List.cons_append, List.zip_cons_cons, List.countP_cons, Nat.odd_add, ih]
    cases side first <;> cases side next <;> cases side last <;> simp

section Crossings

variable {α : Type} [Field α] [LinearOrder α] {polygon : List (Point α)} {a b : Point α} {x y c : α}

theorem crossing?_eq_none_iff : crossing? y (a, b) = none ↔ (a.y ≤ y ↔ b.y ≤ y) := by
  rw [crossing?]
  split
  next h => exact iff_of_true rfl h
  next h => exact iff_of_false (Option.some_ne_none _) h

theorem isSome_crossing? (edge : Point α × Point α) :
    (crossing? y edge).isSome = (decide (edge.1.y ≤ y) != decide (edge.2.y ≤ y)) := by
  obtain ⟨a, b⟩ := edge
  rw [Bool.eq_iff_iff, bne_iff_ne, Ne, decide_eq_decide, ← crossing?_eq_none_iff,
    Option.isSome_iff_ne_none]

theorem ne_of_crossing?_eq_some (h : crossing? y (a, b) = some c) : b.y - a.y ≠ 0 := by
  intro hzero
  have hnone : crossing? y (a, b) = none := crossing?_eq_none_iff.2 (by rw [sub_eq_zero.1 hzero])
  rw [hnone] at h
  cases h

theorem crossing?_of_not (h : ¬ (a.y ≤ y ↔ b.y ≤ y)) :
    crossing? y (a, b) = some (a.x + (y - a.y) * (b.x - a.x) / (b.y - a.y)) := if_neg h

/-- A position lies on the line through the ends of an edge. -/
theorem on_edge_of_crossing?_eq_some (h : crossing? y (a, b) = some c) :
    (c - a.x) * (b.y - a.y) = (y - a.y) * (b.x - a.x) := by
  have hne := ne_of_crossing?_eq_some h
  have hcrosses : ¬ (a.y ≤ y ↔ b.y ≤ y) := fun heq => by
    rw [crossing?_eq_none_iff.2 heq] at h
    cases h
  rw [crossing?_of_not hcrosses] at h
  rw [← Option.some.inj h, add_sub_cancel_left, div_mul_cancel₀ _ hne]

theorem pairwise_crossings (polygon : List (Point α)) (y : α) :
    (crossings polygon y).toList.Pairwise (· ≤ ·) :=
  List.sortedLE_mergeSort.pairwise

theorem crossings_perm (polygon : List (Point α)) (y : α) :
    (crossings polygon y).toList.Perm ((edges polygon).filterMap (crossing? y)) :=
  List.mergeSort_perm _ _

/-- A line crosses a polygon an even number of times. -/
theorem even_size_crossings (polygon : List (Point α)) (y : α) :
    Even (crossings polygon y).size := by
  have hsize : (crossings polygon y).size =
      (edges polygon).countP fun e => decide (e.1.y ≤ y) != decide (e.2.y ≤ y) := by
    rw [← Array.length_toList, (crossings_perm polygon y).length_eq,
      List.length_filterMap_eq_countP]
    simp only [isSome_crossing?]
  rw [hsize, ← Nat.not_odd_iff_even]
  cases polygon with
  | nil => exact Nat.not_odd_zero
  | cons first between =>
    -- The walk round the polygon ends at the point where it began.
    exact fun hodd => (odd_countP_walk (fun p : Point α => decide (p.y ≤ y)) first first between).1
      hodd rfl

theorem inside_crossings_iff (polygon : List (Point α)) (x y : α) :
    inside (crossings polygon y) x = true ↔
      Odd ((crossings polygon y).toList.countP (· < x)) := by
  rw [inside, countLeft_eq_countP (pairwise_crossings polygon y), decide_eq_true_iff, Nat.odd_iff]

/-- All positions lie to the right of the first one. -/
theorem inside_eq_false_of_le_first (h : ∀ first ∈ (crossings polygon y)[0]?, x ≤ first) :
    inside (crossings polygon y) x = false := by
  have hnone : (crossings polygon y).toList.countP (· < x) = 0 := by
    refine List.countP_eq_zero.2 fun c hc => ?_
    obtain ⟨i, hi, rfl⟩ := List.mem_iff_getElem.1 hc
    have hfirst := h _ (Array.getElem?_eq_getElem (Nat.zero_lt_of_lt hi))
    have hle := le_of_le_index (pairwise_crossings polygon y) (Nat.zero_le i) hi
    simpa using le_trans hfirst hle
  rw [← Bool.not_eq_true, inside_crossings_iff, hnone]
  exact Nat.not_odd_zero

/-- All positions lie to the left of the last one, and their number is even. -/
theorem inside_eq_false_of_last_lt (h : ∀ last ∈ (crossings polygon y).back?, last < x) :
    inside (crossings polygon y) x = false := by
  have hall : (crossings polygon y).toList.countP (· < x) = (crossings polygon y).size := by
    rw [← Array.length_toList]
    refine List.countP_eq_length.2 fun c hc => ?_
    obtain ⟨i, hi, rfl⟩ := List.mem_iff_getElem.1 hc
    rw [Array.length_toList] at hi
    have hback : (crossings polygon y).size - 1 < (crossings polygon y).size := by omega
    have hlast := h _ (Array.back?_eq_getElem?.trans (Array.getElem?_eq_getElem hback))
    have hle := le_of_le_index (pairwise_crossings polygon y) (Nat.le_pred_of_lt hi) hback
    simpa using lt_of_le_of_lt hle hlast
  rw [← Bool.not_eq_true, inside_crossings_iff, hall, Nat.not_odd_iff_even]
  exact even_size_crossings polygon y

end Crossings

/-! ## Division by zero -/

/-- A number, or what comes of a division by zero. -/
inductive Checked (α : Type)
  | number (value : α)
  | undefined

namespace Checked

variable {α : Type}

/-- An operation that is carried out on numbers only. -/
def combine (op : α → α → Checked α) : Checked α → Checked α → Checked α
  | number a, number b => op a b
  | _, _ => undefined

instance [Add α] : Add (Checked α) := ⟨combine fun a b => number (a + b)⟩

instance [Sub α] : Sub (Checked α) := ⟨combine fun a b => number (a - b)⟩

instance [Mul α] : Mul (Checked α) := ⟨combine fun a b => number (a * b)⟩

instance [Div α] [Zero α] [DecidableEq α] : Div (Checked α) :=
  ⟨combine fun a b => if b = 0 then undefined else number (a / b)⟩

/-- Only numbers are in order. -/
inductive Le [LE α] : Checked α → Checked α → Prop
  | number {a b : α} (h : a ≤ b) : Le (number a) (number b)

instance [LE α] : LE (Checked α) := ⟨Le⟩

theorem number_le_number [LE α] {a b : α} : number a ≤ number b ↔ a ≤ b :=
  ⟨fun | .number h => h, .number⟩

instance [LE α] [DecidableLE α] : DecidableLE (Checked α)
  | number _, number _ => decidable_of_iff _ number_le_number.symm
  | undefined, _ => isFalse nofun
  | number _, undefined => isFalse nofun

/-- A point with coordinates that are numbers. -/
def point (p : Point α) : Point (Checked α) := ⟨number p.x, number p.y⟩

variable [Field α] [LinearOrder α] {polygon : List (Point α)} {y : α}

theorem crossing?_point (edge : Point α × Point α) :
    crossing? (number y) (Prod.map point point edge) = (crossing? y edge).map number := by
  obtain ⟨a, b⟩ := edge
  have hsides : ((point a).y ≤ number y ↔ (point b).y ≤ number y) ↔ (a.y ≤ y ↔ b.y ≤ y) :=
    iff_congr number_le_number number_le_number
  by_cases h : a.y ≤ y ↔ b.y ≤ y
  · rw [crossing?_eq_none_iff.2 h]
    exact if_pos (hsides.2 h)
  · have hsome := crossing?_of_not h
    have hdiv : number ((y - a.y) * (b.x - a.x)) / number (b.y - a.y) =
        number ((y - a.y) * (b.x - a.x) / (b.y - a.y)) :=
      if_neg (ne_of_crossing?_eq_some hsome)
    rw [hsome]
    refine (if_neg (mt hsides.1 h)).trans ?_
    change some (number a.x + number ((y - a.y) * (b.x - a.x)) / number (b.y - a.y)) = _
    rw [hdiv]
    rfl

/-- Numbers that remember a division by zero give the same positions. -/
theorem crossings_point (polygon : List (Point α)) (y : α) :
    crossings (polygon.map point) (number y) = (crossings polygon y).map number := by
  have hedges : edges (polygon.map point) = (edges polygon).map (Prod.map point point) := by
    rw [edges, edges, ← List.map_drop, ← List.map_take, ← List.map_append, List.zip_map]
  have hpositions : (edges (polygon.map point)).filterMap (crossing? (number y)) =
      ((edges polygon).filterMap (crossing? y)).map number := by
    rw [hedges, List.filterMap_map, List.map_filterMap]
    exact List.filterMap_congr fun edge _ => crossing?_point edge
  rw [crossings, crossings, hpositions, List.map_toArray, List.map_mergeSort]
  exact fun a _ b _ => decide_eq_decide.2 number_le_number.symm

end Checked

/-! ## Filling -/

section Filling

variable {α : Type} [Field α] [LinearOrder α]

/-- A polygon is filled between the positions where the line at height `y` crosses it. -/
structure Filled (polygon : List (Point α)) (y : α) : Prop where
  /-- An edge leads from each point to the next one, and from the last point to the first one. -/
  closed : (edges polygon).length = polygon.length ∧ ∀ i (h : i < polygon.length),
    ∃ next ∈ polygon[(i + 1) % polygon.length]?, (edges polygon)[i]? = some (polygon[i], next)
  /-- The positions are those of the edges that the line crosses. -/
  positions : (crossings polygon y).toList.Perm ((edges polygon).filterMap (crossing? y))
  /-- Each of them lies on its edge. -/
  onEdge : ∀ a b c, crossing? y (a, b) = some c →
    (c - a.x) * (b.y - a.y) = (y - a.y) * (b.x - a.x)
  /-- Nothing is divided by zero. -/
  defined : crossings (polygon.map Checked.point) (.number y) =
    (crossings polygon y).map Checked.number
  even : Even (crossings polygon y).size
  ascending : (crossings polygon y).toList.Pairwise (· ≤ ·)
  /-- What is inside is told by the number of positions to the left. -/
  inside_iff : ∀ x, inside (crossings polygon y) x = true ↔
    Odd ((crossings polygon y).toList.countP (· < x))
  /-- Nothing is inside up to the first position. -/
  left : ∀ x, (∀ first ∈ (crossings polygon y)[0]?, x ≤ first) →
    inside (crossings polygon y) x = false
  /-- Nothing is inside to the right of the last position. -/
  right : ∀ x, (∀ last ∈ (crossings polygon y).back?, last < x) →
    inside (crossings polygon y) x = false

/-- Every polygon is filled on every line. -/
theorem filled_crossings (polygon : List (Point α)) (y : α) : Filled polygon y where
  closed := ⟨length_edges polygon, fun _ => exists_getElem?_edges⟩
  positions := crossings_perm polygon y
  onEdge _ _ _ := on_edge_of_crossing?_eq_some
  defined := Checked.crossings_point polygon y
  even := even_size_crossings polygon y
  ascending := pairwise_crossings polygon y
  inside_iff x := inside_crossings_iff polygon x y
  left _ := inside_eq_false_of_le_first
  right _ := inside_eq_false_of_last_lt

end Filling

end VpnTray.Icon
