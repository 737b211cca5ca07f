import VpnTray.Proofs.Actions.Unelevated

/-!
# Commands and the programs that they run

A command is carried out by running programs, and each of them may be missing, be refused,
fail, or print what it likes. Whatever happens, the programs that have been run are as
`Handled` says (`handled`):

* at most one of all programs is run with the right to change the system, by one elevation;
* a command that changes the system comes to an undertaking (`ComesTo`), some of them once the
  user has picked an exit node or an action, and what is run then is that undertaking;
* the monitor is asked to look at the auto-connect setting whenever it was to be changed.
-/

namespace VpnTray

open Text Shell

/-! ## What commands come to -/

namespace Client

variable (client : Client)

/-- To connect. -/
def connecting : Undertaking where
  program := client.program
  args := ["start"]
  followUp := some ["desktop-restart"]
  failure := ("Connection Failed", "Failed to connect")

/-- To disconnect. -/
def disconnecting : Undertaking where
  program := client.program
  args := ["stop"]
  followUp := some ["desktop-stop"]
  failure := ("Disconnection Failed", "Failed to disconnect")

/-- To switch exit nodes on. -/
def startingExitNode : Undertaking where
  program := client.program
  args := ["exit-node", "start"]
  success := some ("Exit Node Started", "All traffic is now routed through Twingate")
  failure := ("Exit Node Failed", "Failed to start exit node")

/-- To switch exit nodes off. -/
def stoppingExitNode : Undertaking where
  program := client.program
  args := ["exit-node", "stop"]
  success := some ("Exit Node Stopped", "Split tunnel mode restored")
  failure := ("Exit Node Failed", "Failed to stop exit node")

/-- To make an exit node the active one. -/
def switchingTo (name : Text) : Undertaking where
  program := client.program
  args := ["exit-node", "switch", name]
  success := some ("Exit Node Switched", "Now using exit node: " ++ name)
  failure := ("Exit Node Failed", "Failed to switch to " ++ name)

/-- The run that lists the exit nodes. -/
def listing : Run := { program := client.program, args := ["exit-node", "list", "-d"] }

end Client

/-- To have the client started with the system, or not. -/
def settingAutoConnect (enabled : Bool) : Undertaking where
  program := "systemctl"
  args := [if enabled then "enable" else "disable", service]
  success := some <|
    if enabled then ("Auto-connect Enabled", "Twingate will connect automatically at startup")
    else ("Auto-connect Disabled", "Twingate will no longer connect at startup")
  failure := ("Auto-connect Error", "Failed to change auto-connect")

/-- The undertaking that a command is from its beginning, if it is one. -/
def Command.undertaking? (client : Client) : Command → Option Undertaking
  | .connect => some client.connecting
  | .disconnect => some client.disconnecting
  | .startExitNode => some client.startingExitNode
  | .stopExitNode => some client.stoppingExitNode
  | .setAutoConnect enabled => some (settingAutoConnect enabled)
  | _ => none

/-- The undertaking that a row of the picker with actions stands for, if it does for one. -/
def ExitNodeChoice.undertaking? (client : Client) : ExitNodeChoice → Option Undertaking
  | .start => some client.startingExitNode
  | .stop => some client.stoppingExitNode
  | .switch name => some (client.switchingTo name)
  | .nothing => none

/-- The picker of exit nodes. -/
def nodePicker (nodes : ExitNodes) : Run :=
  Desktop.picker "Switch Exit Node" "Select an exit node:" "Node" nodes.options

/-- The picker of exit nodes and actions. -/
def actionPicker (nodes : ExitNodes) : Run :=
  Desktop.picker "Exit Nodes" "Select an action:" "Option" nodes.actions

/-- What was printed when the user picked a row: by the client, which listed the exit nodes,
    and by the picker. Both ran with success. -/
structure Pick where
  out : Text
  err : Text
  picked : Text
  complaints : Text := []

namespace Pick

/-- The exit nodes that were listed. -/
def nodes (pick : Pick) : ExitNodes := .ofTable (pick.out ++ pick.err)

/-- The log up to a pick. -/
def log (pick : Pick) (client : Client) (picker : ExitNodes → Run) : Log :=
  [(client.listing, .finished true pick.out pick.err),
    (picker pick.nodes, .finished true pick.picked pick.complaints)]

end Pick

/-- A command comes to an undertaking after a log: at once, or with the row that was picked. -/
inductive ComesTo (client : Client) : Command → Log → Undertaking → Prop
  | atOnce {command : Command} {undertaking : Undertaking}
    (h : command.undertaking? client = some undertaking) : ComesTo client command [] undertaking
  | switch {pick : Pick} {row : Text} (hnodes : pick.nodes.available ≠ [])
    (hrow : choice? pick.picked = some row) :
    ComesTo client .switchExitNode (pick.log client nodePicker)
      (client.switchingTo (nodeOfRow row))
  | list {pick : Pick} {row : Text} {undertaking : Undertaking}
    (hnodes : pick.nodes.available ≠ []) (hrow : choice? pick.picked = some row)
    (h : (ExitNodeChoice.ofRow row).undertaking? client = some undertaking) :
    ComesTo client .listExitNodes (pick.log client actionPicker) undertaking

/-- Of the programs in a log, those of one elevation at most are run with the right to change
    the system. -/
def ElevatedOnce (client : Client) (log : Log) : Prop :=
  ∃ before attempts after, log = before ++ attempts ++ after ∧
    (attempts = [] ∨ ∃ program args done, Elevation program args attempts done) ∧
    (∀ entry ∈ before, Unelevated client entry.1) ∧ ∀ entry ∈ after, Unelevated client entry.1

/-- What is true of a command that has been carried out: of the programs that have been run, and
    of what the tray is asked for in the end. -/
structure Handled (actions : Actions) (command : Command) (log : Log)
    (followUp : Option FollowUp) : Prop where
  /-- One program at most is run with the right to change the system. -/
  elevated : ElevatedOnce actions.client log
  /-- When a command has come to an undertaking, that is gone about, and nothing else is done. -/
  undertaken : ∀ before undertaking rest, ComesTo actions.client command before undertaking →
    log = before ++ rest → Undertaken actions undertaking rest
  /-- The auto-connect setting is looked at once it was to be changed. -/
  refresh : ∀ enabled, command = .setAutoConnect enabled →
    followUp = some (.refresh .autoConnect)

variable {actions : Actions} {client : Client} {log : Log} {undertaking : Undertaking} {u : Unit}

/-! ## At most one elevation -/

namespace ElevatedOnce

/-- Work that is done by the user. -/
theorem of_only {α : Type} {work : Shell α} {a : α} (h : Only (Unelevated client) work)
    (hends : Ends work log a) : ElevatedOnce client log :=
  ⟨log, [], [], by simp, .inl rfl, h log a hends, nofun⟩

/-- More that has been done by the user before. -/
theorem append_left {before : Log} (hbefore : ∀ entry ∈ before, Unelevated client entry.1)
    (h : ElevatedOnce client log) : ElevatedOnce client (before ++ log) := by
  obtain ⟨first, attempts, after, rfl, hattempts, hfirst, hafter⟩ := h
  refine ⟨before ++ first, attempts, after, by simp, hattempts, ?_, hafter⟩
  exact List.forall_mem_append.2 ⟨hbefore, hfirst⟩

end ElevatedOnce

/-- Once its elevation has ended, an undertaking is gone about by the user. -/
theorem Undertaking.unelevated_of_mem_aftermath {done : Bool} {r : Run}
    (h : r ∈ undertaking.aftermath actions done) : Unelevated actions.client r := by
  rcases List.mem_append.1 h with hfollow | hreport
  · cases done with
    | false => cases hfollow
    | true =>
      obtain ⟨args, -, rfl⟩ := List.mem_map.1 hfollow
      exact .inl rfl
  · cases done with
    | false => exact Desktop.unelevated_of_mem_notification hreport
    | true =>
      obtain ⟨success, -, hreport⟩ := List.mem_flatMap.1 hreport
      exact Desktop.unelevated_of_mem_notification hreport

theorem Undertaken.elevatedOnce (h : Undertaken actions undertaking log) :
    ElevatedOnce actions.client log := by
  obtain ⟨attempts, after, done, rfl, helevation, hafter⟩ := h
  refine ⟨[], attempts, after, rfl, .inr ⟨_, _, _, helevation⟩, nofun, fun entry hentry => ?_⟩
  have hmem : entry.1 ∈ undertaking.aftermath actions done :=
    hafter ▸ List.mem_map_of_mem hentry
  exact Undertaking.unelevated_of_mem_aftermath hmem

namespace Actions

/-! ## Picking exit nodes -/

/-- Lets the user pick a row of the exit nodes, unless there are none. -/
def pickExitNode (actions : Actions) (empty : Shell Unit) (title text column : Text)
    (rows : ExitNodes → List Text) (act : Text → Shell Unit) : Shell Unit :=
  actions.withExitNodes fun nodes => do
    if nodes.available.isEmpty then empty
    else
      let some row ← Desktop.choose title text column (rows nodes) | return
      act row

/-- Acts on a row of the picker with actions. -/
def actOn (actions : Actions) (row : Text) : Shell Unit :=
  match (ExitNodeChoice.ofRow row).undertaking? actions.client with
  | some undertaking => actions.undertake undertaking
  | none => return

theorem switchExitNode_eq :
    actions.switchExitNode =
      actions.pickExitNode (actions.desktop.notify "Exit Node Error" "No exit nodes available")
        "Switch Exit Node" "Select an exit node:" "Node" ExitNodes.options
        fun row => actions.undertake (actions.client.switchingTo (nodeOfRow row)) := rfl

theorem listExitNodes_eq :
    actions.listExitNodes =
      actions.pickExitNode (actions.desktop.showMessage "Exit Nodes" "No exit nodes available")
        "Exit Nodes" "Select an action:" "Option" ExitNodes.actions actions.actOn := by
  have hact : (fun row => match ExitNodeChoice.ofRow row with
      | .start => actions.startExitNode
      | .stop => actions.stopExitNode
      | .switch name => actions.switchTo name
      | .nothing => pure ()) = actions.actOn := by
    funext row
    rw [actOn]
    cases ExitNodeChoice.ofRow row with
    | start => rfl
    | stop => rfl
    | switch name => rfl
    | nothing => rfl
  rw [← hact]
  rfl

variable {empty : Shell Unit} {title text column : Text} {rows : ExitNodes → List Text}
  {act : Text → Shell Unit}

/-- The exit nodes are listed before anything else is done with them. -/
theorem ends_withExitNodes {use : ExitNodes → Shell Unit}
    (h : Ends (actions.withExitNodes use) log u) :
    ∃ outcome rest, log = (actions.client.listing, outcome) :: rest ∧
      ((∃ text, outcome.text actions.client.program actions.client.listing.args = .ok text ∧
        Ends (use (.ofTable text)) rest u) ∨
      ∃ cause, outcome.text actions.client.program actions.client.listing.args = .error cause ∧
        Ends (actions.notifyFailure "Exit Node Error" "Failed to get exit nodes" cause) rest
          u) :=
  ends_output_bind h

/-- Once the exit nodes have been listed, the user is asked to pick a row unless there are none, and
    the row is acted on if one has been picked. -/
theorem ends_of_listed {out err : Text} {rest : Log}
    (h : Ends (actions.pickExitNode empty title text column rows act)
      ((actions.client.listing, .finished true out err) :: rest) u) :
    (ExitNodes.ofTable (out ++ err)).available = [] ∧ Ends empty rest u ∨
      (ExitNodes.ofTable (out ++ err)).available ≠ [] ∧ ∃ answer last,
        rest = (Desktop.picker title text column (rows (.ofTable (out ++ err))), answer) :: last ∧
          Ends ((answer.out?.bind choice?).elim (pure ()) act) last u := by
  obtain ⟨listed, later, hlog, hlater⟩ := ends_withExitNodes h
  obtain ⟨hlisted, rfl⟩ := List.cons.inj hlog
  obtain rfl : .finished true out err = listed := congrArg Prod.snd hlisted
  rcases hlater with ⟨output, htext, hlater⟩ | ⟨_, hfailed, -⟩
  · obtain rfl : out ++ err = output := Except.ok.inj htext
    split at hlater
    · next hempty => exact .inl ⟨List.isEmpty_iff.1 hempty, hlater⟩
    · next hsome =>
      obtain ⟨first, row?, last, rfl, hfirst, hlast⟩ := ends_bind_iff.1 hlater
      obtain ⟨answer, rfl, rfl⟩ := Desktop.ends_choose_iff.1 hfirst
      refine .inr ⟨by simpa using hsome, answer, last, rfl, ?_⟩
      cases hrow : answer.out?.bind choice? with
      | none | some => rwa [hrow] at hlast
  · cases hfailed

/-- When the picker has answered, the row is acted on if one has been picked. -/
theorem ends_act_of_answer {out err : Text} {answer : Outcome} {rest : Log}
    (h : Ends (actions.pickExitNode empty title text column rows act)
      ((actions.client.listing, .finished true out err) ::
        (Desktop.picker title text column (rows (.ofTable (out ++ err))), answer) :: rest) u)
    (hnodes : (ExitNodes.ofTable (out ++ err)).available ≠ []) :
    Ends ((answer.out?.bind choice?).elim (pure ()) act) rest u := by
  obtain ⟨-, answer', last, hlog, hlast⟩ := (ends_of_listed h).resolve_left fun h => hnodes h.1
  obtain ⟨hpicked, rfl⟩ := List.cons.inj hlog
  obtain rfl : answer = answer' := congrArg Prod.snd hpicked
  exact hlast

/-- When a row has been picked, it is acted on. -/
theorem ends_act_of_pick {pick : Pick} {row : Text} {rest : Log}
    (h : Ends (actions.pickExitNode empty title text column rows act)
      (pick.log actions.client (fun nodes => Desktop.picker title text column (rows nodes)) ++ rest)
      u)
    (hnodes : pick.nodes.available ≠ []) (hrow : choice? pick.picked = some row) :
    Ends (act row) rest u := by
  have hact := ends_act_of_answer h hnodes
  rwa [Outcome.out?, Option.bind_some, hrow] at hact

/-- Whatever the user does, one program at most is run with the right to change the system. -/
theorem elevatedOnce_pickExitNode
    (h : Ends (actions.pickExitNode empty title text column rows act) log u)
    (hempty : Only (Unelevated actions.client) empty)
    (hact : ∀ row rest u, Ends (act row) rest u → ElevatedOnce actions.client rest) :
    ElevatedOnce actions.client log := by
  obtain ⟨listed, rest, rfl, hrest⟩ := ends_withExitNodes h
  have hlisted : ∀ entry ∈ [(actions.client.listing, listed)], Unelevated actions.client entry.1 :=
    List.forall_mem_singleton.2 (.inl rfl)
  refine .append_left hlisted ?_
  rcases hrest with ⟨_, htext, -⟩ | ⟨_, -, hrest⟩
  · obtain ⟨out, err, rfl, -⟩ := Outcome.exists_of_text htext
    rcases ends_of_listed h with ⟨-, hrest⟩ | ⟨-, answer, last, rfl, hlast⟩
    · exact .of_only hempty hrest
    · have hpicked : ∀ entry ∈
          [(Desktop.picker title text column (rows (.ofTable (out ++ err))), answer)],
          Unelevated actions.client entry.1 :=
        List.forall_mem_singleton.2 (.inr Desktop.zenity_not_mem_elevators)
      refine .append_left hpicked ?_
      cases hrow : answer.out?.bind choice? with
      | none =>
        rw [hrow] at hlast
        exact .of_only (only_pure _ _) hlast
      | some row =>
        rw [hrow] at hlast
        exact hact row last u hlast
  · exact .of_only (Desktop.only_notify _ _ _) hrest

theorem elevatedOnce_actOn {row : Text} (h : Ends (actions.actOn row) log u) :
    ElevatedOnce actions.client log := by
  rw [actOn] at h
  split at h
  · exact (undertaken_of_ends h).elevatedOnce
  · exact .of_only (only_pure _ _) h

/-! ## All commands -/

variable {limit : Nat} {now : Int} {command : Command} {followUp : Option FollowUp}

/-- A command that is an undertaking from its beginning is carried out by going about it. -/
theorem ends_undertake_of_ends_handle (h : Ends (actions.handle limit now command) log followUp)
    (hcommand : command.undertaking? actions.client = some undertaking) :
    Ends (actions.undertake undertaking) log () := by
  cases command <;> cases hcommand <;> exact (ends_bind_pure_iff.1 h).1.elim fun _ hends => hends

theorem elevatedOnce_of_ends (h : Ends (actions.handle limit now command) log followUp) :
    ElevatedOnce actions.client log := by
  cases command with
  | connect | disconnect | startExitNode | stopExitNode | setAutoConnect =>
    exact (undertaken_of_ends (ends_undertake_of_ends_handle h rfl)).elevatedOnce
  | listExitNodes =>
    obtain ⟨⟨_, hends⟩, -⟩ := ends_bind_pure_iff.1 h
    rw [listExitNodes_eq] at hends
    exact elevatedOnce_pickExitNode hends (Desktop.only_showMessage _ _ _) fun _ _ _ =>
      elevatedOnce_actOn
  | switchExitNode =>
    obtain ⟨⟨_, hends⟩, -⟩ := ends_bind_pure_iff.1 h
    rw [switchExitNode_eq] at hends
    exact elevatedOnce_pickExitNode hends (Desktop.only_notify _ _ _) fun _ _ _ hact =>
      (undertaken_of_ends hact).elevatedOnce
  | showConnectionInfo =>
    exact .of_only ((only_showConnectionInfo limit now).bind fun _ => only_pure _ _) h
  | showResources => exact .of_only (only_showResources.bind fun _ => only_pure _ _) h
  | openWebAdmin => exact .of_only (only_openWebAdmin.bind fun _ => only_pure _ _) h
  | diagnosticReport => exact .of_only (only_diagnosticReport.bind fun _ => only_pure _ _) h
  | showAbout => exact .of_only (only_showAbout.bind fun _ => only_pure _ _) h
  | refreshStatus | menuOpening | quit => exact .of_only (only_pure _ _) h

/-- When a command has come to an undertaking, that is gone about, and nothing else is done. -/
theorem undertaken_of_comesTo {before rest : Log}
    (h : Ends (actions.handle limit now command) (before ++ rest) followUp)
    (hcomes : ComesTo actions.client command before undertaking) :
    Undertaken actions undertaking rest := by
  cases hcomes with
  | atOnce hcommand => exact undertaken_of_ends (ends_undertake_of_ends_handle h hcommand)
  | switch hnodes hrow =>
    obtain ⟨⟨_, hends⟩, -⟩ := ends_bind_pure_iff.1 h
    rw [switchExitNode_eq] at hends
    exact undertaken_of_ends (ends_act_of_pick hends hnodes hrow)
  | list hnodes hrow hchoice =>
    obtain ⟨⟨_, hends⟩, -⟩ := ends_bind_pure_iff.1 h
    rw [listExitNodes_eq] at hends
    have hact := ends_act_of_pick hends hnodes hrow
    rw [actOn, hchoice] at hact
    exact undertaken_of_ends hact

/-- Whatever comes of the programs that are run for a command, it is handled as it should be. -/
theorem handled (actions : Actions) (limit : Nat) (now : Int) (command : Command) {σ : Type}
    (machine : Run → σ → Outcome × σ) (s : σ) :
    Handled actions command ((actions.handle limit now command).log machine s)
      ((actions.handle limit now command).exec machine s).1 where
  elevated := elevatedOnce_of_ends (ends_log machine _ s)
  undertaken before undertaking rest hcomes hlog := by
    have hends := ends_log machine (actions.handle limit now command) s
    rw [hlog] at hends
    exact undertaken_of_comesTo hends hcomes
  refresh := by
    rintro enabled rfl
    exact (ends_bind_pure_iff.1 (ends_log machine _ s)).2

end Actions

end VpnTray
