import VpnTray.Proofs.Actions.Commands
import VpnTray.Proofs.Client.ExitNodes

/-!
# Picking an exit node

The user is shown the rows of the exit nodes, and picks one. The switch that follows is to the
name that the row is read back as (`undertaken_nodeOfRow`), and a row is read back without the
mark at its end, whether that was put there or belongs to the name.

So it is the node that was picked to which the tray switches if that node is active, or if its
name does not end like a mark (`undertaken_picked_iff`). From a node that is not active and
whose name does, the tray switches to another one, or to none (`undertaken_other`).
-/

namespace VpnTray

open Text Shell

variable {actions : Actions} {log : Log} {σ : Type} {machine : Run → σ → Outcome × σ} {s : σ}

/-- A switch is to one node. -/
theorem eq_of_undertaken_switchingTo {name other : Text}
    (h : Undertaken actions (actions.client.switchingTo name) log)
    (hother : Undertaken actions (actions.client.switchingTo other) log) : name = other := by
  have hfirst := h.head?_eq.symm.trans hother.head?_eq
  simpa [elevatedRun, Client.switchingTo] using hfirst

namespace Actions

variable {limit : Nat} {now : Int} {pick : Pick} {k : Nat} {name row : Text} {rest : Log}

/-- Whichever row is picked, the tray switches to the name that it is read back as. -/
theorem undertaken_nodeOfRow
    (hlog : (actions.handle limit now .switchExitNode).log machine s =
      pick.log actions.client nodePicker ++ rest)
    (hname : pick.nodes.available[k]? = some name)
    (hpicked : pick.picked = pick.nodes.rowOf name ++ ['\n']) :
    Undertaken actions (actions.client.switchingTo (nodeOfRow (pick.nodes.rowOf name))) rest := by
  have hmem : name ∈ pick.nodes.available := List.mem_of_getElem? hname
  obtain ⟨hne, htrimmed⟩ := ExitNodes.trimmed_of_mem_ofTable hmem
  have hchoice : choice? pick.picked = some (pick.nodes.rowOf name) :=
    hpicked ▸ choice?_rowOf hne htrimmed
  have hends := ends_log machine (actions.handle limit now .switchExitNode) s
  rw [hlog] at hends
  exact undertaken_of_comesTo hends (.switch (List.ne_nil_of_mem hmem) hchoice)

/-- When the user has picked the row of a node, the tray switches to that node if it is active or
    its name does not end like a mark, and only then. -/
theorem undertaken_picked_iff
    (hlog : (actions.handle limit now .switchExitNode).log machine s =
      pick.log actions.client nodePicker ++ rest)
    (hname : pick.nodes.available[k]? = some name) (hrow : pick.nodes.options[k]? = some row)
    (hpicked : pick.picked = row ++ ['\n']) :
    Undertaken actions (actions.client.switchingTo name) rest ↔
      pick.nodes.active = some name ∨ ¬ activeMark <:+ name := by
  rw [ExitNodes.options_eq_map, List.getElem?_map, hname] at hrow
  obtain rfl := Option.some.inj hrow
  have hswitch := undertaken_nodeOfRow hlog hname hpicked
  rw [← nodeOfRow_rowOf_iff]
  constructor
  · exact fun h => eq_of_undertaken_switchingTo hswitch h
  · intro h
    rwa [h] at hswitch

/-! ## Names that end like a mark -/

/-- A tray for which nothing is configured. -/
def plain : Actions := { client := { program := "twingate" }, desktop := {} }

/-- A machine on which the client lists some exit nodes, the user picks a row, and every other
    program is a success. -/
def picking (table picked : Text) (r : Run) (s : Unit) : Outcome × Unit :=
  (.finished true
    (if r = plain.client.listing then table else if r.program = "zenity".toList then picked else [])
    [], s)

/-- What is run when the user has picked a node from which the tray switches to `name`. -/
def switchLog (name : Text) : Log :=
  [(elevatedRun "pkexec" "twingate" ["exit-node", "switch", name], .finished true [] []),
    ({ program := "notify-send"
       args := ["-a", "Twingate Tray", "-t", "5000", "Exit Node Switched",
        "Now using exit node: " ++ name] }, .finished true [] [])]

/-- Two exit nodes, of which the one whose name ends like a mark is active, and is picked. -/
def activePick : Pick where
  out := "Name\tLocation\tActive\nfra\tFrankfurt\tfalse\nosl (active)\tOslo\ttrue\n"
  err := []
  picked := "osl (active) (active)\n"

theorem undertaken_picked_active :
    Undertaken plain (plain.client.switchingTo "osl (active)") (switchLog "osl (active)") := by
  have hlog : (plain.handle 0 0 .switchExitNode).log (picking activePick.out activePick.picked) () =
      activePick.log plain.client nodePicker ++ switchLog "osl (active)" := by
    decide +kernel
  have hname : activePick.nodes.available[1]? = some "osl (active)".toList := by decide +kernel
  have hrow : activePick.nodes.options[1]? = some "osl (active) (active)".toList := by
    decide +kernel
  exact (undertaken_picked_iff hlog hname hrow (by decide)).2 (.inl (by decide +kernel))

/-- One exit node, which is not active, and whose name ends like a mark. -/
def markedPick : Pick where
  out := "fra (active)\tFrankfurt\tfalse\n"
  err := []
  picked := "fra (active)\n"

/-- When the user picks a node that is not active but has a name that ends like a mark, the tray
    does not switch to it: it switches to the name without the mark. -/
theorem undertaken_other :
    markedPick.nodes.available = ["fra (active)".toList] ∧
      markedPick.nodes.options = ["fra (active)".toList] ∧
      (plain.handle 0 0 .switchExitNode).log (picking markedPick.out markedPick.picked) () =
        markedPick.log plain.client nodePicker ++ switchLog "fra" ∧
      Undertaken plain (plain.client.switchingTo "fra") (switchLog "fra") ∧
      ¬ Undertaken plain (plain.client.switchingTo "fra (active)") (switchLog "fra") := by
  have hlog : (plain.handle 0 0 .switchExitNode).log (picking markedPick.out markedPick.picked) () =
      markedPick.log plain.client nodePicker ++ switchLog "fra" := by
    decide +kernel
  have hnames : markedPick.nodes.available = ["fra (active)".toList] := by decide +kernel
  have hrows : markedPick.nodes.options = ["fra (active)".toList] := by decide +kernel
  have hpicked : markedPick.picked = markedPick.nodes.rowOf "fra (active)" ++ ['\n'] := by
    decide +kernel
  have hread : nodeOfRow (markedPick.nodes.rowOf "fra (active)") = "fra".toList := by
    decide +kernel
  have hswitch : Undertaken plain (plain.client.switchingTo "fra") (switchLog "fra") := by
    rw [← hread]
    exact undertaken_nodeOfRow (k := 0) hlog (by rw [hnames]; rfl) hpicked
  refine ⟨hnames, hrows, hlog, hswitch, fun h => ?_⟩
  exact absurd (eq_of_undertaken_switchingTo hswitch h) (by decide)

end Actions

end VpnTray
