import VpnTray.Proofs.Text.Cells

/-!
# Tables as texts

A table is printed as a line of headings and a line for each row, with tabs between the cells
(`Table.text`). Any of the cells may be blank, so that a blank line is a row as well, and so is a
line without tabs. Each line may have a line end of its own.

Before such a text is read, it is trimmed, taken apart into lines, and each line is trimmed:

* `exists_lines_text`: the lines are the headings and the rows, but for blanks at their ends, and
  for rows at the end of the table in which all is blank;
* `cells_trim_line`: the cells of a line are those of the row from the first to the last one that
  is not blank.
-/

namespace VpnTray.Table

open Text

/-- How a line ends. -/
inductive LineEnd
  | feed
  | returnFeed
deriving DecidableEq, Repr

/-- The characters at the end of a line. -/
def LineEnd.text : LineEnd → Text
  | .feed => ['\n']
  | .returnFeed => ['\r', '\n']

/-- The line of headings, which is not blank. -/
structure Headings where
  text : Text
  noFeed : '\n' ∉ text := by decide
  nonblank : ¬ Blank text := by decide

/-- A row: its cells, in which there is nothing that stands between cells or between lines, and how
    the line before it ends. -/
structure Row where
  cells : List Text
  lineEnd : LineEnd := .feed
  plain : ∀ cell ∈ cells, '\t' ∉ cell ∧ '\n' ∉ cell := by decide

/-- The line of a row. -/
def Row.line (row : Row) : Text := ['\t'].intercalate row.cells

/-- The text of a table. Where it ends in a line end, the last row has no cells. -/
def text (headings : Headings) (rows : List Row) : Text :=
  headings.text ++ rows.flatMap fun row => row.lineEnd.text ++ row.line

namespace Row

/-- A row of two cells or more, none of them with blanks around it, of which the outer ones are not
    empty. -/
structure Full (row : Row) : Prop where
  two_le : 2 ≤ row.cells.length
  trimmed : ∀ cell ∈ row.cells, Trimmed cell
  head : ∀ cell ∈ row.cells.head?, cell ≠ []
  last : ∀ cell ∈ row.cells.getLast?, cell ≠ []

instance (row : Row) : Decidable row.Full :=
  decidable_of_iff (2 ≤ row.cells.length ∧ (∀ cell ∈ row.cells, Trimmed cell) ∧
      (∀ cell ∈ row.cells.head?, cell ≠ []) ∧ ∀ cell ∈ row.cells.getLast?, cell ≠ [])
    ⟨fun ⟨two_le, trimmed, head, last⟩ => ⟨two_le, trimmed, head, last⟩,
      fun h => ⟨h.two_le, h.trimmed, h.head, h.last⟩⟩

/-- A line that is blank, or a single cell. -/
def Bare (row : Row) : Prop := Blank row.line ∨ row.cells.length ≤ 1

instance (row : Row) : Decidable row.Bare := inferInstanceAs (Decidable (_ ∨ _))

end Row

variable {headings : Headings} {row : Row} {rows : List Row} {first : Text}

/-! ## Lines -/

theorem LineEnd.exists_text_eq (lineEnd : LineEnd) :
    ∃ blanks, Blank blanks ∧ '\n' ∉ blanks ∧ lineEnd.text = blanks ++ ['\n'] := by
  cases lineEnd with
  | feed => exact ⟨[], nofun, nofun, rfl⟩
  | returnFeed => exact ⟨['\r'], by decide, by decide, rfl⟩

theorem Row.noFeed_line (row : Row) : '\n' ∉ row.line := by
  have hcells := fun cell hcell => (row.plain cell hcell).2
  rw [Row.line]
  generalize row.cells = cells at hcells
  induction cells with
  | nil => exact nofun
  | cons cell cells ih =>
    obtain ⟨hcell, hcells⟩ := List.forall_mem_cons.1 hcells
    cases cells with
    | nil => rwa [List.intercalate_singleton]
    | cons next cells =>
      rw [List.intercalate_cons_cons, List.mem_append, List.mem_append, not_or, not_or]
      exact ⟨⟨hcell, by decide⟩, ih hcells⟩

/-- The pieces between the line feeds, whatever the line ends. -/
theorem map_trimEnd_splitOnP_text (hfirst : '\n' ∉ first) (rows : List Row) :
    ((first ++ rows.flatMap fun row => row.lineEnd.text ++ row.line).splitOnP
        (· == '\n')).map trimEnd =
      trimEnd first :: rows.map fun row => trimEnd row.line := by
  have hfeed : ∀ {cs : Text}, '\n' ∉ cs → ∀ c ∈ cs, (c == '\n') = false := fun hcs c hc =>
    beq_eq_false_iff_ne.2 fun heq => hcs (heq ▸ hc)
  induction rows generalizing first with
  | nil => rw [List.flatMap_nil, List.append_nil, List.splitOnP_eq_singleton (hfeed hfirst)]; rfl
  | cons row rows ih =>
    obtain ⟨blanks, hblanks, hnoFeed, htext⟩ := row.lineEnd.exists_text_eq
    have hpiece : '\n' ∉ first ++ blanks := fun hmem =>
      (List.mem_append.1 hmem).elim hfirst hnoFeed
    have hcons : first ++ (row :: rows).flatMap (fun row => row.lineEnd.text ++ row.line) =
        (first ++ blanks) ++
          '\n' :: (row.line ++ rows.flatMap fun row => row.lineEnd.text ++ row.line) := by
      simp [htext]
    rw [hcons, List.splitOnP_append_cons_of_forall_mem (hfeed hpiece) '\n' rfl, List.map_cons,
      ih row.noFeed_line, trimEnd_append_right hblanks, List.map_cons]

/-- The lines of a table are its headings and its rows, without blank ones at its end, and, but for
    the blanks in front of the headings, with all that is not a blank at the end of a line. -/
theorem exists_lines_text (headings : Headings) (rows : List Row) :
    ∃ rest back, (lines (trim (text headings rows))).map trimEnd = trim headings.text :: rest ∧
      (∀ line ∈ back, line = []) ∧ rows.map (fun row => trimEnd row.line) = rest ++ back := by
  have hnoFeed : '\n' ∉ trimStart headings.text := fun hmem =>
    headings.noFeed ((List.dropWhile_suffix _).mem hmem)
  have hpieces : ((trimStart (text headings rows)).splitOnP (· == '\n')).map trimEnd =
      trim headings.text :: rows.map fun row => trimEnd row.line := by
    rw [text, trimStart_append headings.nonblank, map_trimEnd_splitOnP_text hnoFeed]
    rfl
  obtain ⟨blankLines, hblank, heq⟩ := trails_lines_trimEnd (trimStart (text headings rows))
  rw [hpieces, List.map_append, ← trim] at heq
  have hback : ∀ line ∈ blankLines.map trimEnd, line = [] :=
    List.forall_mem_map.2 fun line hline => trimEnd_eq_nil_iff.2 (hblank line hline)
  cases hlines : (lines (trim (text headings rows))).map trimEnd with
  | nil =>
    -- The headings would be blank, like all that stands behind the lines.
    rw [hlines, List.nil_append] at heq
    have hnil : trim headings.text = [] := hback _ (heq ▸ List.mem_cons_self)
    exact absurd (trim_eq_nil_iff.1 hnil) headings.nonblank
  | cons first rest =>
    rw [hlines] at heq
    obtain ⟨rfl, hrows⟩ := List.cons.inj heq
    exact ⟨rest, blankLines.map trimEnd, rfl, hback, hrows⟩

/-! ## Cells -/

theorem Row.splitOnP_line (h : row.cells ≠ []) : row.line.splitOnP (· == '\t') = row.cells :=
  List.splitOn_intercalate '\t' (fun cell hcell => (row.plain cell hcell).1) h

/-- In a blank line there is nothing but blanks between the tabs. -/
theorem Row.inner_of_blank (h : Blank row.line) : inner (row.cells.map trim) = [] := by
  refine inner_eq_nil (List.forall_mem_map.2 fun cell hcell => ?_)
  rw [← Row.splitOnP_line (List.ne_nil_of_mem hcell)] at hcell
  exact trim_eq_nil_iff.2 (blank_of_mem_splitOnP h hcell)

/-- A line is read as the cells of its row from the first to the last one that is not blank. -/
theorem Row.cells_trim_line (h : ¬ Blank row.line) :
    Text.cells (trim row.line) = inner (row.cells.map trim) := by
  have hcells : row.cells ≠ [] := fun hnil => h (by rw [Row.line, hnil]; exact nofun)
  rw [cells_trim h, Text.cells, Row.splitOnP_line hcells]

theorem Row.Full.inner_eq (h : row.Full) : inner (row.cells.map trim) = row.cells := by
  have hcells : row.cells.map trim = row.cells :=
    (List.map_congr_left fun cell hcell => (h.trimmed cell hcell).trim_eq).trans
      (List.map_id' row.cells)
  rw [hcells]
  exact Pads.inner_eq ⟨[], [], nofun, nofun, by simp⟩ h.head h.last

theorem Row.Bare.length_inner_le_one (h : row.Bare) :
    (inner (row.cells.map trim)).length ≤ 1 := by
  rcases h with hblank | hone
  · rw [Row.inner_of_blank hblank]
    exact Nat.zero_le 1
  · refine length_inner_le_one_iff.2 ((List.length_filter_le _ _).trans ?_)
    rwa [List.length_map]

end VpnTray.Table
