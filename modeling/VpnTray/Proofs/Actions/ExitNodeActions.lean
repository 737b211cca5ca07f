import VpnTray.Proofs.Actions.Commands
import VpnTray.Proofs.Client.ExitNodes

/-!
# Picking an action

The user is shown one row that switches exit nodes off, or on if none is active, then a row that
only separates, and then the rows of the exit nodes. The position of a row says what it asks for
(`ExitNodes.asked`), but what the picker prints is the row itself.

The tray does what the picked row asks for, and nothing else, if the rows of the nodes tell what
they stand for (`obeyed_listExitNodes`). Without nodes, and without an answer of the picker, nothing
is run with the right to change the system.
-/

namespace VpnTray

open Text Shell

namespace ExitNodes

/-- What the row at a position of the picker with actions asks for, if it does for something. -/
def asked (nodes : ExitNodes) (client : Client) : Nat → Option Undertaking
  | 0 => some (if nodes.active.isSome then client.stoppingExitNode else client.startingExitNode)
  | 1 => none
  | k + 2 => nodes.available[k]?.map client.switchingTo

end ExitNodes

/-- What is true of the programs that have been run to let the user pick an action. -/
structure Obeyed (actions : Actions) (log : Log) : Prop where
  /-- The exit nodes are listed first, and if there are some, the user is asked to pick a row. -/
  offered : ∃ listed rest, log = (actions.client.listing, listed) :: rest ∧
    ∀ out err, listed = .finished true out err → (ExitNodes.ofTable (out ++ err)).available ≠ [] →
      ∃ answer last, rest = (actionPicker (.ofTable (out ++ err)), answer) :: last
  /-- There is a row for each of the nodes, after the two others. -/
  rows : ∀ text, (ExitNodes.ofTable text).actions.length =
    (ExitNodes.ofTable text).available.length + 2
  /-- When a row has been picked, what it asks for is gone about, and nothing else is done. -/
  picked : ∀ (pick : Pick) (k : Nat) (row : Text) (rest : Log),
    pick.nodes.available ≠ [] → pick.nodes.Telling →
    pick.nodes.actions[k]? = some row → pick.picked = row ++ ['\n'] →
    log = pick.log actions.client actionPicker ++ rest →
      match pick.nodes.asked actions.client k with
      | some undertaking => Undertaken actions undertaking rest
      | none => rest = []
  /-- Without nodes, the user is shown a message, and nothing else is done. -/
  empty : ∀ (out err : Text) (rest : Log), (ExitNodes.ofTable (out ++ err)).available = [] →
    log = (actions.client.listing, .finished true out err) :: rest →
      rest.map (·.1) = [actions.desktop.messageBox "Exit Nodes" "No exit nodes available"]
  /-- When the picker has not ended with success, or has printed nothing but line ends, nothing is
      done. -/
  unanswered : ∀ (out err : Text) (answer : Outcome) (rest : Log),
    (ExitNodes.ofTable (out ++ err)).available ≠ [] →
    (∀ printed complaints, answer = .finished true printed complaints →
      ∀ c ∈ printed, c = '\r' ∨ c = '\n') →
    log = (actions.client.listing, .finished true out err) ::
      (actionPicker (.ofTable (out ++ err)), answer) :: rest →
      rest = []

variable {actions : Actions} {client : Client} {log rest : Log} {u : Unit} {pick : Pick} {k : Nat}
  {row : Text}

/-! ## Rows -/

theorem length_actions (nodes : ExitNodes) : nodes.actions.length = nodes.available.length + 2 := by
  rw [ExitNodes.actions, ExitNodes.options_eq_map, List.length_append, List.length_map,
    Nat.add_comm]
  rfl

/-- What stands at a position of the picker with actions. -/
theorem cases_of_actions {nodes : ExitNodes} (h : nodes.actions[k]? = some row) :
    (k = 0 ∧ row = if nodes.enabled then stopRow else startRow) ∨ (k = 1 ∧ row = separatorRow) ∨
      ∃ i name, k = i + 2 ∧ nodes.available[i]? = some name ∧ row = nodes.rowOf name := by
  rw [ExitNodes.actions, ExitNodes.options_eq_map] at h
  rcases k with _ | _ | i
  · exact .inl ⟨rfl, (Option.some.inj h).symm⟩
  · exact .inr (.inl ⟨rfl, (Option.some.inj h).symm⟩)
  · have hrow : (nodes.available.map nodes.rowOf)[i]? = some row := h
    rw [List.getElem?_map, Option.map_eq_some_iff] at hrow
    obtain ⟨name, hname, rfl⟩ := hrow
    exact .inr (.inr ⟨i, name, rfl, hname, rfl⟩)

/-- A row is read back from what the picker has printed. -/
theorem choice?_of_actions (h : pick.nodes.actions[k]? = some row) :
    choice? (row ++ ['\n']) = some row := by
  obtain ⟨-, rfl⟩ | ⟨-, rfl⟩ | ⟨i, name, -, hname, rfl⟩ := cases_of_actions h
  · cases pick.nodes.enabled with
    | true | false => decide
  · decide
  · obtain ⟨hne, htrimmed⟩ := ExitNodes.trimmed_of_mem_ofTable (List.mem_of_getElem? hname)
    exact choice?_rowOf hne htrimmed

/-- A row stands for what its position says. -/
theorem undertaking?_ofRow (htelling : pick.nodes.Telling)
    (h : pick.nodes.actions[k]? = some row) :
    (ExitNodeChoice.ofRow row).undertaking? client = pick.nodes.asked client k := by
  obtain ⟨rfl, rfl⟩ | ⟨rfl, rfl⟩ | ⟨i, name, rfl, hname, rfl⟩ := cases_of_actions h
  · rw [ExitNodes.asked, ExitNodes.enabled]
    cases pick.nodes.active.isSome with
    | true | false => rfl
  · rfl
  · have hmem : name ∈ pick.nodes.available := List.mem_of_getElem? hname
    have hne : name ≠ [] := (ExitNodes.trimmed_of_mem_ofTable hmem).1
    rw [ofRow_rowOf htelling hmem hne, ExitNodes.asked, hname]
    rfl

namespace Actions

/-- Acting on a row is what its position asks for. -/
theorem undertaken_of_actOn (htelling : pick.nodes.Telling)
    (hrow : pick.nodes.actions[k]? = some row) (h : Ends (actions.actOn row) log u) :
    match pick.nodes.asked actions.client k with
    | some undertaking => Undertaken actions undertaking log
    | none => log = [] := by
  rw [actOn, undertaking?_ofRow htelling hrow] at h
  cases hasked : pick.nodes.asked actions.client k with
  | some undertaking =>
    rw [hasked] at h
    exact undertaken_of_ends h
  | none =>
    rw [hasked] at h
    exact (ends_pure_iff.1 h).1

/-- Whatever the programs print, the tray does what the picked row asks for. -/
theorem obeyed_listExitNodes (actions : Actions) (limit : Nat) (now : Int) {σ : Type}
    (machine : Run → σ → Outcome × σ) (s : σ) :
    Obeyed actions ((actions.handle limit now .listExitNodes).log machine s) := by
  obtain ⟨⟨_, hends⟩, -⟩ :=
    ends_bind_pure_iff.1 (ends_log machine (actions.handle limit now .listExitNodes) s)
  rw [listExitNodes_eq] at hends
  refine ⟨?offered, fun _ => length_actions _, ?picked, ?empty, ?unanswered⟩
  case offered =>
    obtain ⟨listed, rest, hlog, -⟩ := ends_withExitNodes hends
    refine ⟨listed, rest, hlog, ?_⟩
    rintro out err rfl hnodes
    rw [hlog] at hends
    obtain ⟨-, answer, last, hrest, -⟩ := (ends_of_listed hends).resolve_left fun h => hnodes h.1
    exact ⟨answer, last, hrest⟩
  case picked =>
    intro pick k row rest hnodes htelling hrow hpicked hlog
    rw [hlog] at hends
    exact undertaken_of_actOn htelling hrow
      (ends_act_of_pick hends hnodes (hpicked ▸ choice?_of_actions hrow))
  case empty =>
    intro out err rest hnodes hlog
    rw [hlog] at hends
    exact Desktop.runs_of_showMessage ((ends_of_listed hends).resolve_right fun h => h.1 hnodes).2
  case unanswered =>
    intro out err answer rest hnodes hanswer hlog
    rw [hlog] at hends
    have hact := ends_act_of_answer hends hnodes
    have hnone : answer.out?.bind choice? = none := by
      rw [Option.bind_eq_none_iff]
      intro printed hprinted
      obtain ⟨complaints, rfl⟩ := Outcome.exists_of_out? hprinted
      exact choice?_eq_none_iff.2 (hanswer printed complaints rfl)
    rw [hnone] at hact
    exact (ends_pure_iff.1 hact).1

/-- The user picks a node while another one is active. -/
example :
    let actions : Actions := { client := { program := "twingate" }, desktop := {} }
    let machine (r : Run) (_ : Unit) : Outcome × Unit :=
      if r.program = "zenity" then (.finished true "osl\n" [], ())
      else (.finished true "fra\tFrankfurt\ttrue\nosl\tOslo\tfalse\n" [], ())
    ((actions.handle 0 0 .listExitNodes).log machine ()).map (·.1) =
      [actions.client.listing, actionPicker { available := ["fra", "osl"], active := some "fra" },
        elevatedRun "pkexec" "twingate" ["exit-node", "switch", "osl"]] ++
      actions.desktop.notification "Exit Node Switched" "Now using exit node: osl" := by
  decide +kernel

end Actions

end VpnTray
