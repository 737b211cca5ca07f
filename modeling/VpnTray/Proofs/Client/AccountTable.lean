import VpnTray.Client.Account
import VpnTray.Proofs.Client.Table

/-!
# Accounts in a table

The account that counts is the first row of a table. Whatever its cells are, and whatever comes
after it, what is shown of it is what stands in its first three columns (`getD_ofTable?_text`), with
a dash for a cell that is blank or missing.

When the table is trimmed, the blanks in front of it go, but these are not in the row. The blanks at
the end of it go as well, and cells at the end of the row may go with them, or the whole row, if
nothing else is in the table. But none of these showed anything but a dash.
-/

namespace VpnTray

open Text Table

/-- What is shown of a row at a position: the cell without the blanks around it, or a dash if it is
    blank or missing. -/
def Table.Row.shown (row : Row) (position : Nat) : Text :=
  match row.cells[position]? with
  | none => dash
  | some cell => if Blank cell then dash else trim cell

namespace Account

variable {cells back : List Text} {line other : Text}

/-! ## Cells -/

/-- Empty cells at the end of a row are as good as none. -/
theorem cellOrDash_append (hback : ∀ cell ∈ back, cell = []) (position : Nat) :
    cellOrDash (cells ++ back) position = cellOrDash cells position := by
  by_cases h : position < cells.length
  · rw [cellOrDash, cellOrDash, List.getElem?_append_left h]
  · have hnone : cells[position]? = none := List.getElem?_eq_none (Nat.le_of_not_lt h)
    rw [cellOrDash, cellOrDash, hnone, List.getElem?_append_right (Nat.le_of_not_lt h)]
    cases hcell : back[position - cells.length]? with
    | none => rfl
    | some cell =>
      obtain rfl := hback cell (List.mem_of_getElem? hcell)
      rfl

/-- Blanks at the end of a line make no difference, even if there are tabs among them. -/
theorem cellOrDash_cells_trimEnd (line : Text) (position : Nat) :
    cellOrDash (Text.cells (trimEnd line)) position = cellOrDash (Text.cells line) position := by
  obtain ⟨blanks, hblanks, hline⟩ := exists_blanks_right line
  have htrails : Trails ((trimEnd line ++ blanks).splitOnP (· == '\t'))
      ((trimEnd line).splitOnP (· == '\t')) := trails_splitOnP_append hblanks
  obtain ⟨back, hback, hcells⟩ := htrails.exists_map_trim
  rw [← hline] at hcells
  rw [Text.cells, Text.cells, hcells, cellOrDash_append hback]

theorem ofRow_cells_congr (h : trimEnd line = trimEnd other) :
    ofRow (Text.cells line) = ofRow (Text.cells other) := by
  have hcell : cellOrDash (Text.cells line) = cellOrDash (Text.cells other) := by
    funext position
    rw [← cellOrDash_cells_trimEnd, h, cellOrDash_cells_trimEnd]
  rw [ofRow, ofRow, hcell]

theorem cellOrDash_cells_line (row : Row) (position : Nat) :
    cellOrDash (Text.cells row.line) position = row.shown position := by
  by_cases hcells : row.cells = []
  · rw [Row.shown, hcells, Row.line, hcells]
    -- The line of no cells is read as one that is empty.
    cases position <;> rfl
  · rw [Text.cells, Row.splitOnP_line hcells, cellOrDash, Row.shown, List.getElem?_map]
    cases row.cells[position]? with
    | none => rfl
    | some cell => simp [trim_eq_nil_iff]

/-! ## The first row -/

/-- What is shown of a row. -/
def inRow (row : Row) : Account := ⟨row.shown 0, row.shown 1, row.shown 2⟩

theorem ofRow_cells_line (row : Row) : ofRow (Text.cells row.line) = inRow row := by
  rw [ofRow, cellOrDash_cells_line, cellOrDash_cells_line, cellOrDash_cells_line, inRow]

/-- The account in a table is the first row, even if all of it is blank. -/
theorem getD_ofTable?_text (headings : Headings) (row : Row) (more : List Row) :
    (ofTable? (Table.text headings (row :: more))).getD .unknown = inRow row := by
  obtain ⟨rest, back, hlines, hback, hrows⟩ := exists_lines_text headings (row :: more)
  rw [List.map_cons] at hrows
  rw [ofTable?, ← ofRow_cells_line]
  cases rest with
  | nil =>
    -- The row is blank, and all that comes after it.
    rw [List.nil_append] at hrows
    have hnil : trimEnd row.line = trimEnd [] := hback _ (hrows ▸ List.mem_cons_self)
    have hnone : (lines (trim (Table.text headings (row :: more))))[1]? = none := by
      have hlength := congrArg List.length hlines
      rw [List.length_map] at hlength
      exact List.getElem?_eq_none (Nat.le_of_eq hlength)
    rw [hnone, ofRow_cells_congr hnil]
    rfl
  | cons first rest =>
    obtain ⟨rfl, -⟩ := List.cons.inj hrows
    have hsecond : ((lines (trim (Table.text headings (row :: more)))).map trimEnd)[1]? =
        some (trimEnd row.line) := by
      rw [hlines]
      rfl
    rw [List.getElem?_map] at hsecond
    obtain ⟨line, hline, htrim⟩ := Option.map_eq_some_iff.1 hsecond
    rw [hline, ← ofRow_cells_congr htrim]
    rfl

/-- The first cell is blank, the third one is missing, and there is a row after the account. -/
example :
    ofTable? "User\tNetwork\tUrl\r\n\u3000\t acme \r\nalice\tother\tother.example\n" =
      some ⟨"-", "acme", "-"⟩ := by decide +kernel

end Account

end VpnTray
