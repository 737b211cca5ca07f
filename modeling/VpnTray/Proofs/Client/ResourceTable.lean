import Mathlib.Data.List.Forall2
import VpnTray.Proofs.Client.Resources
import VpnTray.Proofs.Client.Table

/-!
# Resources in a table

A table of resources is read by its lines, and a line by its cells from the first to the last one
that is not blank (`ofTable_text`). What the cells say of a resource is told by `Reads`.

So a table is read back as it was printed if no outer cell of a row is blank: each row gives the
resource that it says, in order, and lines that are blank or have no tabs give none
(`reads_ofTable`).

A blank cell at either end of a row does not count as one, and shifts the columns. A row with a
blank name gives a resource all the same, named by the next cell, unless only one cell is left. A
row with a blank state of authentication gives the one that stands in the column before it, unless
that is blank as well (`exists_yields_ofTable`).
-/

namespace VpnTray

open Text Table

namespace Resource

/-- What the cells of a row say of a resource. -/
structure Reads (cells : List Text) (resource : Resource) : Prop where
  name : cells[0]? = some resource.name
  address : cells[1]? = some resource.address
  /-- The state of authentication is in the fourth column, or in the third one of three. -/
  authStatus : resource.authStatus = (cells[3]?.or cells[2]?).getD []
  needsAuth : resource.needsAuth = true ↔
    "locked".toList <:+: lowercase resource.authStatus

/-- The resource in a row, by its cells from the first to the last one that is not blank. -/
def inRow? (row : Row) : Option Resource := ofRow? (inner (row.cells.map trim))

variable {cells : List Text} {resource : Resource} {row : Row}

theorem reads_of_ofRow? (h : ofRow? cells = some resource) : Reads cells resource := by
  obtain ⟨name, address, rest, rfl, -, rfl⟩ := ofRow?_eq_some h
  refine ⟨rfl, rfl, ?_, contains_iff⟩
  match rest with
  | [] | [_] | _ :: _ :: _ => rfl

/-- A row from the first to the last cell that is not blank has a name, so that it only lacks an
    address if it lacks a resource. -/
theorem ofRow?_inner_eq_none_iff : ofRow? (inner cells) = none ↔ (inner cells).length ≤ 1 := by
  match hinner : inner cells with
  | [] | [_] => exact iff_of_true rfl (by simp)
  | name :: address :: rest =>
    have hmem : name ∈ (inner cells).head? := by
      rw [hinner]
      rfl
    have hname : name ≠ [] := ne_nil_of_mem_head?_inner hmem
    refine iff_of_false ?_ (by simp)
    rw [ofRow?, if_neg (by simpa using hname)]
    exact Option.some_ne_none _

/-- The line of a row is read as its resource. -/
theorem ofRow?_cells_trim_line (row : Row) :
    ofRow? (Text.cells (trim row.line)) = inRow? row := by
  rw [inRow?]
  by_cases h : Blank row.line
  · rw [trim_eq_nil_iff.2 h, Row.inner_of_blank h]
    rfl
  · rw [Row.cells_trim_line h]

/-- A table is read row by row, and a row from the first to the last cell that is not blank. -/
theorem ofTable_text (headings : Headings) (rows : List Row) :
    ofTable (Table.text headings rows) = rows.filterMap inRow? := by
  obtain ⟨rest, back, hlines, hback, hrows⟩ := exists_lines_text headings rows
  have hdrop : ((lines (trim (Table.text headings rows))).drop 1).map trimEnd = rest := by
    rw [List.map_drop, hlines]
    rfl
  have hread : ∀ line, ofRow? (Text.cells (trim (trimEnd line))) = ofRow? (Text.cells (trim line)) :=
    fun line => by rw [trim_trimEnd]
  -- Nothing is read from the blank rows at the end.
  have hpads : Pads (rest ++ back) rest := ⟨[], back, nofun, hback, rfl⟩
  calc ofTable (Table.text headings rows)
      = (((lines (trim (Table.text headings rows))).drop 1).map trimEnd).filterMap
          fun line => ofRow? (Text.cells (trim line)) := by
        rw [List.filterMap_map]
        exact List.filterMap_congr fun line _ => (hread line).symm
    _ = (rows.map fun row => trimEnd row.line).filterMap
          fun line => ofRow? (Text.cells (trim line)) := by
        rw [hdrop, hrows, hpads.filterMap rfl]
    _ = rows.filterMap inRow? := by
        rw [List.filterMap_map]
        exact List.filterMap_congr fun row _ => (hread _).trans (ofRow?_cells_trim_line row)

/-! ## Rows without blank outer cells -/

theorem exists_reads_of_full (h : row.Full) :
    ∃ resource, inRow? row = some resource ∧ Reads row.cells resource := by
  have hsome : inRow? row ≠ none := by
    rw [ne_eq, inRow?, ofRow?_inner_eq_none_iff, h.inner_eq, Nat.not_le]
    exact h.two_le
  obtain ⟨resource, hresource⟩ := Option.ne_none_iff_exists'.1 hsome
  exact ⟨resource, hresource, h.inner_eq ▸ reads_of_ofRow? hresource⟩

/-- A table in which no outer cell of a row is blank is read back row by row. Lines that are blank
    or a single cell may stand anywhere in it. -/
theorem reads_ofTable (headings : Headings) {rows : List Row}
    (h : ∀ row ∈ rows, row.Full ∨ row.Bare) :
    List.Forall₂ (fun row resource => Reads row.cells resource) (rows.filter (·.Full))
      (ofTable (Table.text headings rows)) := by
  rw [ofTable_text]
  induction rows with
  | nil => exact .nil
  | cons row rows ih =>
    obtain ⟨hrow, hrows⟩ := List.forall_mem_cons.1 h
    by_cases hfull : row.Full
    · obtain ⟨resource, hresource, hreads⟩ := exists_reads_of_full hfull
      rw [List.filter_cons_of_pos (by simpa using hfull),
        List.filterMap_cons_some (f := inRow?) hresource]
      exact .cons hreads (ih hrows)
    · have hbare : row.Bare := hrow.resolve_left hfull
      have hnone : inRow? row = none := ofRow?_inner_eq_none_iff.2 hbare.length_inner_le_one
      rw [List.filter_cons_of_neg (by simpa using hfull), List.filterMap_cons_none hnone]
      exact ih hrows

/-- The headings that the client prints. -/
def headings : Headings where
  text := "Name\tAddress\tAlias\tAuth"

/-- Rows of different lengths, in one of which the fourth cell is empty, among other lines. -/
def mixedRows : List Row := [
  { cells := ["wiki", "wiki.internal", "-", "LOCKED"] },
  { cells := ["broken"], lineEnd := .returnFeed },
  { cells := [" ", "\u3000"] },
  { cells := ["db", "10.0.0.5", "Authenticated"], lineEnd := .returnFeed },
  { cells := ["nas", "", "locked", "", "-"] },
  { cells := [], lineEnd := .returnFeed }]

theorem reads_ofTable_mixed :
    (∀ row ∈ mixedRows, row.Full ∨ row.Bare) ∧ (mixedRows.filter (·.Full)).length = 3 ∧
      List.Forall₂ (fun row resource => Reads row.cells resource) (mixedRows.filter (·.Full))
        (ofTable (Table.text headings mixedRows)) := by
  have hrows : ∀ row ∈ mixedRows, row.Full ∨ row.Bare := by decide +kernel
  exact ⟨hrows, by decide +kernel, reads_ofTable headings hrows⟩

/-! ## Blank outer cells -/

/-- What a row yields, if something, whatever its cells. -/
structure Yields (row : Row) (yielded : Option Resource) : Prop where
  /-- A row lacks a resource if and only if all its cells but one, or all, are blank. -/
  none_iff : yielded = none ↔ (row.cells.filter (¬ Blank ·)).length ≤ 1
  /-- The columns are counted from the first cell that is not blank, up to the last one. -/
  reads : ∀ resource, yielded = some resource → Reads (inner (row.cells.map trim)) resource
  /-- A row of four columns with a name, but without a state of authentication, yields a resource
      without one if and only if it has an address and the third cell is blank. -/
  free_iff : ∀ name address third status, row.cells = [name, address, third, status] →
    ¬ Blank name → Blank status →
      ((∃ resource, yielded = some resource ∧ resource.authStatus = [] ∧
        resource.needsAuth = false) ↔ ¬ Blank address ∧ Blank third)

/-- A row with a name, of which the fourth cell is empty, is read up to the last cell that is not
    empty. -/
theorem inner_of_name {name address third : Text} (hname : name ≠ []) :
    inner [name, address, third, []] =
      if third ≠ [] then [name, address, third]
      else if address ≠ [] then [name, address] else [name] := by
  have hhead : ∀ {rest : List Text}, ∀ cell ∈ (name :: rest).head?, cell ≠ [] := by simpa
  split
  · next hthird => exact Pads.inner_eq ⟨[], [[]], nofun, by simp, rfl⟩ hhead (by simpa)
  · next hthird =>
    obtain rfl := not_ne_iff.1 hthird
    split
    · next haddress => exact Pads.inner_eq ⟨[], [[], []], nofun, by simp, rfl⟩ hhead (by simpa)
    · next haddress =>
      obtain rfl := not_ne_iff.1 haddress
      exact Pads.inner_eq ⟨[], [[], [], []], nofun, by simp, rfl⟩ hhead (by simpa)

/-- Of the rows that `inner_of_name` is about, the ones without a state of authentication are those
    of two cells. -/
theorem free_inner_of_name_iff {name address third : Text} (hname : name ≠ []) :
    (∃ resource, ofRow? (inner [name, address, third, []]) = some resource ∧
      resource.authStatus = [] ∧ resource.needsAuth = false) ↔ address ≠ [] ∧ third = [] := by
  rw [inner_of_name hname]
  split
  · next hthird =>
    refine iff_of_false ?_ fun h => hthird h.2
    rintro ⟨resource, hresource, hfree, -⟩
    exact hthird ((reads_of_ofRow? hresource).authStatus.symm.trans hfree)
  · next hthird =>
    split
    · next haddress =>
      rw [ofRow?, if_neg (by simpa using hname)]
      exact iff_of_true ⟨_, rfl, rfl, rfl⟩ ⟨haddress, not_ne_iff.1 hthird⟩
    · next haddress =>
      refine iff_of_false ?_ fun h => haddress h.1
      rintro ⟨resource, hresource, -⟩
      cases hresource

theorem yields_inRow? (row : Row) : Yields row (inRow? row) where
  none_iff := by
    have hfilter : row.cells.filter ((!·.isEmpty) ∘ trim) = row.cells.filter (¬ Blank ·) :=
      List.filter_congr fun cell _ => by rw [Function.comp_apply, isEmpty_trim, decide_not]
    rw [inRow?, ofRow?_inner_eq_none_iff, length_inner_le_one_iff, List.filter_map,
      List.length_map, hfilter]
  reads _ := reads_of_ofRow?
  free_iff := by
    intro name address third status hcells hname hstatus
    have hpieces : row.cells.map trim = [trim name, trim address, trim third, []] := by
      rw [hcells, ← trim_eq_nil_iff.2 hstatus]
      rfl
    rw [inRow?, hpieces, free_inner_of_name_iff (mt trim_eq_nil_iff.1 hname), ne_eq,
      trim_eq_nil_iff, trim_eq_nil_iff]

/-- At whatever position of a table, a row yields what its cells say that are left when the blank
    ones at either end are dropped. -/
theorem exists_yields_ofTable (headings : Headings) (before after : List Row) (row : Row) :
    ∃ yielded, Yields row yielded ∧
      ofTable (Table.text headings (before ++ row :: after)) =
        ofTable (Table.text headings before) ++ yielded.toList ++
          ofTable (Table.text headings after) := by
  refine ⟨inRow? row, yields_inRow? row, ?_⟩
  rw [ofTable_text, ofTable_text, ofTable_text, List.filterMap_append, List.append_assoc]
  cases hrow : inRow? row with
  | none => rw [List.filterMap_cons_none hrow]; rfl
  | some resource => rw [List.filterMap_cons_some hrow]; rfl

/-- A row without a name, and a row without a state of authentication. -/
def gappyRows : List Row := [
  { cells := ["", "10.0.0.5", "db", "Locked"] },
  { cells := ["wiki", "wiki.internal", "Locked", ""] },
  { cells := [] }]

/-- The row without a name yields a resource that is named by the address, and the other row one
    for which the user has to authenticate because of its third cell. -/
theorem ofTable_gappy :
    ofTable (Table.text headings gappyRows) =
      [{ name := "10.0.0.5", address := "db", authStatus := "Locked", needsAuth := true },
        { name := "wiki", address := "wiki.internal", authStatus := "Locked",
          needsAuth := true }] := by
  decide +kernel

end Resource

end VpnTray
