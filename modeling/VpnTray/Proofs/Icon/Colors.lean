import Mathlib.Algebra.Order.BigOperators.Group.List
import Mathlib.Algebra.Order.Ring.Nat
import VpnTray.Icon.Render

/-!
# The colours of the icon

What is drawn of the icon, its *parts*, does not depend on the colours, which come afterwards
(`samples_eq`). Both parts are less red while connected, each by so much that a pixel shows it if
one of its samples is covered (`average_red_ne`). The pixel in the middle is such a pixel, so that
the icon tells the state of the connection (`render_injective`).
-/

namespace VpnTray.Icon

/-! ## Parts -/

/-- A part of the icon, which has one colour. -/
inductive Part
  | body
  | inner
deriving DecidableEq, Repr

/-- The colour of a part. -/
def Palette.color (palette : Palette) : Part → Color
  | .body => palette.body
  | .inner => palette.inner

/-- The part of the icon at a position of a scan line, if there is one. -/
def ScanLine.part? (line : ScanLine) (x : Float) : Option Part :=
  if line.body.isEmpty then none
  else if inside line.inner x then some .inner
  else if inside line.body x then some .body
  else none

/-- The parts that the samples of a pixel show. -/
def parts (lines : List ScanLine) (column : Nat) : List (Option Part) :=
  lines.flatMap fun line =>
    (List.range samplesPerSide).map fun n =>
      line.part? (samplePosition (column * samplesPerSide + n))

/-- The samples for parts in given colours. -/
def paint (palette : Palette) (parts : List (Option Part)) : List (Option Color) :=
  parts.map (Option.map palette.color)

theorem color?_eq (line : ScanLine) (palette : Palette) (x : Float) :
    line.color? palette x = (line.part? x).map palette.color := by
  rw [ScanLine.color?, ScanLine.part?]
  split
  · rfl
  · split
    · rfl
    · split <;> rfl

theorem samples_eq (palette : Palette) (lines : List ScanLine) (column : Nat) :
    samples palette lines column = paint palette (parts lines column) := by
  simp only [samples, paint, parts, List.map_flatMap, List.map_map, Function.comp_def, color?_eq]

/-! ## Red -/

/-- How red a part is. -/
def redness (palette : Palette) (part? : Option Part) : Nat :=
  level (·.red) (part?.map palette.color)

/-- By how much a part is less red while connected. -/
def lessRed : Option Part → Nat
  | some .body => 76
  | some .inner => 10
  | none => 0

theorem redness_disconnected (part? : Option Part) :
    redness disconnectedPalette part? = redness connectedPalette part? + lessRed part? := by
  match part? with
  | none | some .body | some .inner => decide

theorem redness_le (palette : Palette) (part? : Option Part) : redness palette part? ≤ 255 := by
  cases part? with
  | none => exact Nat.zero_le _
  | some part => exact Nat.le_of_lt_succ (palette.color part).red.toNat_lt

theorem average_red_paint (palette : Palette) (parts : List (Option Part)) :
    average (·.red) (paint palette parts) =
      .ofNat (((parts.map (redness palette)).sum + 2) / 4) := by
  rw [average, paint, List.foldl_map, List.sum_eq_foldl, List.foldl_map]
  rfl

theorem sum_redness_disconnected (parts : List (Option Part)) :
    (parts.map (redness disconnectedPalette)).sum =
      (parts.map (redness connectedPalette)).sum + (parts.map lessRed).sum := by
  induction parts with
  | nil => rfl
  | cons part? parts ih =>
    rw [List.map_cons, List.sum_cons, ih, redness_disconnected, List.map_cons, List.sum_cons,
      List.map_cons, List.sum_cons]
    omega

theorem sum_redness_le (palette : Palette) (parts : List (Option Part)) :
    (parts.map (redness palette)).sum ≤ parts.length * 255 := by
  have h := List.sum_le_card_nsmul (parts.map (redness palette)) 255 (by
    intro n hn
    obtain ⟨part?, -, rfl⟩ := List.mem_map.1 hn
    exact redness_le palette part?)
  rw [List.length_map] at h
  exact h

/-- A pixel with a covered sample is less red while connected. -/
theorem average_red_ne {parts : List (Option Part)} {part : Part} (hmem : some part ∈ parts)
    (hlength : parts.length ≤ 4) :
    average (·.red) (paint connectedPalette parts) ≠
      average (·.red) (paint disconnectedPalette parts) := by
  have hless : 10 ≤ (parts.map lessRed).sum := by
    refine Nat.le_trans ?_ (List.single_le_sum (fun _ _ => Nat.zero_le _) _
      (List.mem_map_of_mem hmem))
    cases part <;> decide
  have hbound := sum_redness_le disconnectedPalette parts
  have hsum := sum_redness_disconnected parts
  rw [average_red_paint, average_red_paint]
  intro heq
  have hnat := congrArg UInt8.toNat heq
  rw [UInt8.toNat_ofNat_of_lt', UInt8.toNat_ofNat_of_lt'] at hnat
  · omega
  all_goals (rw [UInt8.size]; omega)

/-! ## Images -/

/-- Pieces of the same lengths are told apart by what they make together. -/
theorem eq_of_flatMap_eq {α β : Type} {l : List α} (f g : α → List β)
    (hlength : ∀ a ∈ l, (f a).length = (g a).length) (h : l.flatMap f = l.flatMap g) :
    ∀ a ∈ l, f a = g a := by
  induction l with
  | nil => exact nofun
  | cons a l ih =>
    rw [List.flatMap_cons, List.flatMap_cons] at h
    obtain ⟨hfirst, hrest⟩ := List.append_inj h (hlength a List.mem_cons_self)
    rw [List.forall_mem_cons] at hlength ⊢
    exact ⟨hfirst, ih hlength.2 hrest⟩

section Images

variable {palette other : Palette} {size : Nat} {lines : List ScanLine} {scan : Nat → ScanLine}

theorem length_row (palette : Palette) (size : Nat) (lines : List ScanLine) :
    (row palette size lines).length = size * 4 := by
  rw [row, List.length_flatMap]
  simp [pixel]

/-- A row tells the pixels that are in it. -/
theorem pixel_eq_of_row (h : row palette size lines = row other size lines) {column : Nat}
    (hcolumn : column < size) :
    pixel (samples palette lines column) = pixel (samples other lines column) :=
  eq_of_flatMap_eq (fun column => pixel (samples palette lines column))
    (fun column => pixel (samples other lines column)) (fun _ _ => rfl) h column
    (List.mem_range.2 hcolumn)

/-- An image tells the rows that are in it. -/
theorem row_eq_of_raster (h : raster palette size scan = raster other size scan) {y : Nat}
    (hy : y < size) :
    row palette size ((List.range samplesPerSide).map fun n => scan (y * samplesPerSide + n)) =
      row other size ((List.range samplesPerSide).map fun n => scan (y * samplesPerSide + n)) :=
  eq_of_flatMap_eq _ _ (fun _ _ => by rw [length_row, length_row]) h y (List.mem_range.2 hy)

/-- An image with a covered sample shows the state of the connection. -/
theorem raster_ne (y column : Nat) {part : Part} (hy : y < size) (hcolumn : column < size)
    (hcovered : (scan (y * samplesPerSide)).part? (samplePosition (column * samplesPerSide)) =
      some part) :
    raster connectedPalette size scan ≠ raster disconnectedPalette size scan := by
  intro heq
  have hpixel := pixel_eq_of_row (row_eq_of_raster heq hy) hcolumn
  rw [samples_eq, samples_eq] at hpixel
  -- The second byte of a pixel is how red it is.
  have hred := (List.cons.inj (List.cons.inj hpixel).2).1
  have hmem : some part ∈ parts
      ((List.range samplesPerSide).map fun n => scan (y * samplesPerSide + n)) column := by
    rw [← hcovered]
    exact List.mem_cons_self
  exact average_red_ne hmem (Nat.le_refl 4) hred

end Images

/-! ## The middle of the icon -/

theorem mergeSort_pair {α : Type} (le : α → α → Bool) (a b : α) :
    [a, b].mergeSort le = if le a b then [a, b] else [b, a] := by
  simp only [List.mergeSort, List.MergeSort.Internal.splitInTwo]
  simp [List.splitAt, List.splitAt.go, List.merge]

/-- A position between two crossings is inside. -/
theorem inside_pair {α : Type} [LT α] [DecidableLT α] {a b x : α} (ha : a < x) (hb : ¬b < x) :
    inside #[a, b] x = true := by
  have hcount : countLeft #[a, b] x = 1 := by
    simp [countLeft, searchLeft, ha, hb]
  rw [inside, hcount]
  rfl

/-- The middle of the icon, along a side. -/
def middle : Float := samplePosition size

/-- The scan line through the middle enters the body on the left and leaves it on the right. -/
theorem crossings_middle :
    ∃ left right, crossings (toCanvas (Float.ofNat size) outline) middle = #[left, right] ∧
      left < middle ∧ ¬right < middle := by
  -- The outline goes round from the top to the right, so that the crossing on the right is found
  -- first.
  have hcrossed : (match (edges (toCanvas (Float.ofNat size) outline)).filterMap
      (crossing? middle) with
    | [right, left] => !decide (right ≤ left) && decide (left < middle) && !decide (right < middle)
    | [] | [_] | _ :: _ :: _ :: _ => false) = true := by decide +kernel
  split at hcrossed
  · next right left heq =>
    simp only [Bool.and_eq_true, Bool.not_eq_true', decide_eq_true_eq, decide_eq_false_iff_not]
      at hcrossed
    refine ⟨left, right, ?_, hcrossed.1.2, hcrossed.2⟩
    rw [crossings, heq, mergeSort_pair, if_neg (by simpa using hcrossed.1.1)]
  all_goals cases hcrossed

/-- There is something of the icon in the middle. -/
theorem exists_part?_middle : ∃ part, (scanLine size size).part? middle = some part := by
  obtain ⟨left, right, hbody, hleft, hright⟩ := crossings_middle
  have hline : (scanLine size size).body = #[left, right] := hbody
  rw [ScanLine.part?, hline, inside_pair hleft hright]
  split
  · contradiction
  · split
    · exact ⟨.inner, rfl⟩
    · exact ⟨.body, rfl⟩

/-- The icon tells the state of the connection. -/
theorem render_injective : Function.Injective render := by
  have hne : render true ≠ render false := by
    obtain ⟨part, hpart⟩ := exists_part?_middle
    intro heq
    have hdata : raster connectedPalette size (scanLine size) =
        raster disconnectedPalette size (scanLine size) :=
      congrArg (fun icon => icon.data.data.toList) heq
    have hmiddle : 128 < size := by decide
    exact raster_ne 128 128 hmiddle hmiddle hpart hdata
  intro connected connected' h
  cases connected <;> cases connected'
  · rfl
  · exact absurd h.symm hne
  · exact absurd h hne
  · rfl

end VpnTray.Icon
