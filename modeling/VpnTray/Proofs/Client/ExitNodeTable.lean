import Mathlib.Data.List.Forall2
import VpnTray.Client.ExitNodes
import VpnTray.Proofs.Text.Cells

/-!
# Exit nodes in a table

Whatever the client prints, each of its lines either tells of an exit node or does not
(`TellsOf`), and what it tells is seen in its first and its third cell (`nameIn`, `SaysActive`).
The exit nodes that are read are told by the lines of the output (`told_ofTable`):

* they are listed as the lines tell of them, and a name is never empty, has no blanks around it,
  and holds nothing that stands between cells or lines;
* the active one is told by the last line that says so, and is thus one of those in the list;
* each has its row in the picker, marked if the name is that of the active one.

The output is trimmed before it is taken apart, which makes no difference to the lines that are not
blank (`rows_eq`).
-/

namespace VpnTray

open Text

namespace ExitNodes

/-- A line tells of an exit node: it is not blank, and not one of headings. -/
def TellsOf (line : Text) : Prop := ¬ Blank line ∧ ¬ "Name".toList <+: trim line

instance (line : Text) : Decidable (TellsOf line) := inferInstanceAs (Decidable (_ ∧ _))

/-- The lines of a text that tell of exit nodes. -/
def nodeLines (text : Text) : List Text := (lines text).filter (TellsOf ·)

/-- The name in a line: what stands before the first tab, once the line is trimmed. -/
def nameIn (line : Text) : Text := trim ((trim line).takeWhile (· != '\t'))

/-- A line says that its node is active, in the third cell. -/
def SaysActive (line : Text) : Prop := (cells (trim line))[2]? = some "true".toList

instance (line : Text) : Decidable (SaysActive line) := inferInstanceAs (Decidable (_ = _))

/-- The exit nodes are those of which the lines of a text tell. -/
structure Told (text : Text) (nodes : ExitNodes) : Prop where
  available : nodes.available = (nodeLines text).map nameIn
  name : ∀ name ∈ nodes.available, name ≠ [] ∧ Trimmed name ∧ '\t' ∉ name ∧ '\n' ∉ name
  /-- The active node is told by the last line that says so. -/
  active_iff : ∀ name, nodes.active = some name ↔
    ∃ before line after, nodeLines text = before ++ line :: after ∧ SaysActive line ∧
      (∀ later ∈ after, ¬ SaysActive later) ∧ name = nameIn line
  active_eq_none_iff : nodes.active = none ↔ ∀ line ∈ nodeLines text, ¬ SaysActive line
  mem : ∀ name, nodes.active = some name → name ∈ nodes.available
  /-- The rows of the picker are the names, with a mark at that of the active node only. -/
  options : List.Forall₂
    (fun name row => nodes.active = some name ∧ row = name ++ " (active)".toList ∨
      nodes.active ≠ some name ∧ row = name)
    nodes.available nodes.options

variable {text line name : Text}

/-! ## Lines -/

/-- The rows of a table are its lines that tell of exit nodes. -/
theorem rows_eq (text : Text) :
    rows text = (nodeLines text).map fun line => cells (trim line) := by
  have htells : (fun line => !line.isEmpty && !startsWith "Name" line) ∘ trim =
      fun line => decide (TellsOf line) := by
    funext line
    rw [Bool.eq_iff_iff, Function.comp_apply, Bool.and_eq_true, isEmpty_trim, Bool.not_eq_true',
      Bool.not_eq_true', decide_eq_false_iff_not, decide_eq_true_iff, TellsOf, startsWith,
      Bool.eq_false_iff, ne_eq, List.isPrefixOf_iff_prefix]
  rw [rows, filter_map_trim_lines_trim rfl, List.filter_map, htells, List.map_map]
  rfl

theorem noFeed_of_mem_nodeLines (h : line ∈ nodeLines text) : '\n' ∉ line :=
  noFeed_of_mem_lines (List.mem_filter.1 h).1

theorem headD_cells (line : Text) : (cells (trim line)).headD [] = nameIn line := by
  rw [List.headD_eq_head?_getD, cells, List.head?_map, head?_splitOnP]
  rfl

theorem available_ofTable (text : Text) :
    (ofTable text).available = (nodeLines text).map nameIn := by
  rw [ofTable, rows_eq, List.map_map]
  exact List.map_congr_left fun line _ => headD_cells line

theorem active_ofTable (text : Text) :
    (ofTable text).active = ((nodeLines text).filter (SaysActive ·)).getLast?.map nameIn := by
  rw [ofTable, rows_eq, List.filter_map, List.getLast?_map, Option.map_map]
  exact congrArg (Option.map · _) (funext headD_cells)

/-! ## Names -/

/-- A line that is trimmed begins with its name. -/
theorem nameIn_ne_nil (h : ¬ Blank line) : nameIn line ≠ [] := by
  obtain ⟨c, rest, hline⟩ := List.exists_cons_of_ne_nil (mt trim_eq_nil_iff.1 h)
  have hblank : isBlank c = false := (trimmed_trim line).head c (by simp [hline])
  have htab : (c != '\t') = true := by
    refine bne_iff_ne.2 ?_
    rintro rfl
    exact absurd hblank (by decide)
  rw [nameIn, hline, List.takeWhile_cons_of_pos (by exact htab)]
  exact trim_cons_ne_nil hblank _

theorem noTab_nameIn (line : Text) : '\t' ∉ nameIn line := fun hmem =>
  absurd (List.mem_takeWhile_imp (mem_of_mem_trim hmem)) (by decide)

theorem noFeed_nameIn (h : '\n' ∉ line) : '\n' ∉ nameIn line := by
  intro hmem
  have hstart : (trim line).takeWhile (· != '\t') <+: trim line := List.takeWhile_prefix _
  exact h (mem_of_mem_trim (hstart.mem (mem_of_mem_trim hmem)))

/-- A name in a table is a cell with something in it. -/
theorem trimmed_of_mem_ofTable (h : name ∈ (ofTable text).available) :
    name ≠ [] ∧ Trimmed name := by
  rw [available_ofTable] at h
  obtain ⟨line, hline, rfl⟩ := List.mem_map.1 h
  have htells : TellsOf line := by simpa using (List.mem_filter.1 hline).2
  exact ⟨nameIn_ne_nil htells.1, trimmed_trim _⟩

/-! ## The active node -/

theorem active_ofTable_eq_some_iff :
    (ofTable text).active = some name ↔
      ∃ before line after, nodeLines text = before ++ line :: after ∧ SaysActive line ∧
        (∀ later ∈ after, ¬ SaysActive later) ∧ name = nameIn line := by
  simp only [active_ofTable, Option.map_eq_some_iff, getLast?_filter_eq_some_iff,
    decide_eq_true_iff, decide_eq_false_iff_not]
  constructor
  · rintro ⟨line, ⟨before, after, hlines, hsays, hlater⟩, rfl⟩
    exact ⟨before, line, after, hlines, hsays, hlater, rfl⟩
  · rintro ⟨before, line, after, hlines, hsays, hlater, rfl⟩
    exact ⟨line, ⟨before, after, hlines, hsays, hlater⟩, rfl⟩

/-- Whatever the client has printed, the exit nodes are read from it as its lines tell. -/
theorem told_ofTable (text : Text) : Told text (ofTable text) where
  available := available_ofTable text
  name := by
    intro name hname
    obtain ⟨hne, htrimmed⟩ := trimmed_of_mem_ofTable hname
    rw [available_ofTable] at hname
    obtain ⟨line, hline, rfl⟩ := List.mem_map.1 hname
    exact ⟨hne, htrimmed, noTab_nameIn line, noFeed_nameIn (noFeed_of_mem_nodeLines hline)⟩
  active_iff _ := active_ofTable_eq_some_iff
  active_eq_none_iff := by
    rw [active_ofTable, Option.map_eq_none_iff, List.getLast?_eq_none_iff, List.filter_eq_nil_iff]
    simp
  mem := by
    intro name hactive
    obtain ⟨before, line, after, hlines, -, -, rfl⟩ := active_ofTable_eq_some_iff.1 hactive
    rw [available_ofTable, hlines]
    exact List.mem_map_of_mem (by simp)
  options := by
    rw [options, List.forall₂_map_right_iff]
    refine List.forall₂_same.2 fun name _ => ?_
    split
    · next hactive => exact .inl ⟨hactive, rfl⟩
    · next hactive => exact .inr ⟨hactive, rfl⟩

/-- Headings may stand on any line, a name may come twice, and the last of several nodes that are
    said to be active is. -/
example :
    ExitNodes.ofTable
        "Name\tCity\tActive\nfra\tFrankfurt\ttrue\r\n\nosl\tOslo\nName\nfra\nber\t\ttrue \t\n" =
      { available := ["fra", "osl", "fra", "ber"], active := some "ber" } := by decide +kernel

end ExitNodes

end VpnTray
