import VpnTray.Proofs.Client.ExitNodeTable
import VpnTray.Proofs.Desktop

/-!
# Rows of exit nodes

The user picks a node by its row, which is its name, marked if the node is active. The picker
prints the row and a line end, and what was printed is read back as a row (`choice?_rowOf`),
since a name in a table neither is empty nor ends with a blank (`trimmed_of_mem_ofTable`).

A row does not say whether its mark was put there. So it is read back as the name from which it
was made, unless the node is not active and the name itself ends like a mark
(`nodeOfRow_rowOf_iff`).

In the picker with actions, rows of nodes come after two others, and a row does not say which of
these kinds it is of either. It stands for what its position says where all rows tell that
(`ExitNodes.Telling`, `ofRow_rowOf`).
-/

namespace VpnTray

open Text

variable {nodes : ExitNodes} {name row : Text}

namespace ExitNodes

/-- The row of a node. -/
def rowOf (nodes : ExitNodes) (name : Text) : Text :=
  if nodes.active = some name then name ++ activeMark else name

theorem options_eq_map (nodes : ExitNodes) : nodes.options = nodes.available.map nodes.rowOf := rfl

/-- Exit nodes of which the rows tell what they stand for: no name is another row of the picker with
    actions, and none ends like a mark. -/
structure Telling (nodes : ExitNodes) : Prop where
  start : startRow ∉ nodes.available
  stop : stopRow ∉ nodes.available
  separator : separatorRow ∉ nodes.available
  mark : ∀ name ∈ nodes.available, ¬ activeMark <:+ name

end ExitNodes

/-! ## What was printed -/

theorem choice?_rowOf (hne : name ≠ []) (hname : Trimmed name) :
    choice? (nodes.rowOf name ++ ['\n']) = some (nodes.rowOf name) := by
  rw [ExitNodes.rowOf]
  split
  · refine choice?_append_newline (by simp [hne]) fun c hc => ?_
    have hlast : (name ++ activeMark).getLast? = some ')' := by
      rw [List.getLast?_append]
      rfl
    obtain rfl := Option.some.inj (hlast.symm.trans hc)
    decide
  · exact choice?_append_newline hne fun c hc => ne_lineEnd (hname.last c hc)

/-! ## Marks -/

theorem nodeOfRow_append_mark (name : Text) : nodeOfRow (name ++ activeMark) = name := by
  rw [nodeOfRow, List.isSuffixOf?_eq_some_iff_append_eq.2 rfl]
  rfl

/-- A row is a name as it is, unless it ends with a mark. -/
theorem nodeOfRow_eq_self_iff : nodeOfRow row = row ↔ ¬ activeMark <:+ row := by
  constructor
  · rintro h ⟨name, rfl⟩
    rw [nodeOfRow_append_mark] at h
    exact absurd (List.self_eq_append_right.1 h) (by decide)
  · intro h
    have hnone : List.isSuffixOf? activeMark row = none := by
      refine Option.eq_none_iff_forall_not_mem.2 fun name hname => h ⟨name, ?_⟩
      exact List.isSuffixOf?_eq_some_iff_append_eq.1 hname
    rw [nodeOfRow, hnone]
    rfl

/-- The row of a node is read back as its name if the node is active, or if its name does not
    itself end like a mark. -/
theorem nodeOfRow_rowOf_iff :
    nodeOfRow (nodes.rowOf name) = name ↔ nodes.active = some name ∨ ¬ activeMark <:+ name := by
  rw [ExitNodes.rowOf]
  split
  · next hactive => exact iff_of_true (nodeOfRow_append_mark name) (.inl hactive)
  · next hactive => rw [nodeOfRow_eq_self_iff, or_iff_right hactive]

/-! ## The picker with actions -/

/-- The row of a node is no other row. -/
theorem rowOf_ne {other : Text} (hother : ¬ activeMark <:+ other) (hname : name ≠ other) :
    nodes.rowOf name ≠ other := by
  rw [ExitNodes.rowOf]
  split
  · rintro rfl
    exact hother ⟨name, rfl⟩
  · exact hname

theorem ofRow_rowOf (h : nodes.Telling) (hmem : name ∈ nodes.available) (hne : name ≠ []) :
    ExitNodeChoice.ofRow (nodes.rowOf name) = .switch name := by
  have hstart : nodes.rowOf name ≠ startRow :=
    rowOf_ne (by decide) fun heq => h.start (heq ▸ hmem)
  have hstop : nodes.rowOf name ≠ stopRow := rowOf_ne (by decide) fun heq => h.stop (heq ▸ hmem)
  have hseparator : nodes.rowOf name ≠ separatorRow :=
    rowOf_ne (by decide) fun heq => h.separator (heq ▸ hmem)
  have hempty : nodes.rowOf name ≠ [] := rowOf_ne (by decide) hne
  rw [ExitNodeChoice.ofRow, if_neg hstart, if_neg hstop, if_neg (not_or.2 ⟨hseparator, hempty⟩),
    nodeOfRow_rowOf_iff.2 (.inr (h.mark name hmem))]

end VpnTray
