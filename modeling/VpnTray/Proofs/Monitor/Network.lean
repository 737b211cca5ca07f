import VpnTray.Monitor.Basic
import VpnTray.Proofs.Client.AccountTable
import VpnTray.Proofs.Client.Elevation
import VpnTray.Proofs.Tray.Run

/-!
# From the account to the menu

When the monitor looks the network up, the name takes a way of four parts: the client prints a
table; the first row of the table is the account; the tray takes the name of the network, unless it
is a dash, which stands for none; and the menu shows the name, or a dash if there is none.

So the menu shows the second cell of the first row, whatever it is, and the desktop is told if that
is another name than before. If the client fails, nothing changes (`lookedUp`).
-/

namespace VpnTray

open Shell Table

namespace Client

/-- The run by which the client is asked for the account. -/
def accountRun (client : Client) : Run :=
  { program := client.program, args := ["account", "list", "-d"] }

/-- The account that is read from how that run has ended. -/
def accountOf (client : Client) (outcome : Outcome) : Except Error Account :=
  (outcome.text client.accountRun.program client.accountRun.args).map fun text =>
    (Account.ofTable? text).getD .unknown

theorem run_account (client : Client) :
    client.account.run = .run client.accountRun fun outcome => return client.accountOf outcome := by
  refine congrArg (Shell.run _) (funext fun outcome => ?_)
  match outcome with
  | .refused _ => rfl
  | .unread => rfl
  | .finished true _ _ => rfl
  | .finished false _ _ => rfl

theorem exists_accountOf {outcome : Outcome} (h : outcome.succeeded = false) (client : Client) :
    ∃ cause, client.accountOf outcome = .error cause := by
  match outcome with
  | .refused _ => exact ⟨_, rfl⟩
  | .unread => exact ⟨_, rfl⟩
  | .finished false _ _ => exact ⟨_, rfl⟩
  | .finished true _ _ => cases h

end Client

/-- A program has ended with success, and all that it printed is a table. -/
def Outcome.Prints (outcome : Outcome) (headings : Headings) (rows : List Row) : Prop :=
  ∃ out err, outcome = .finished true out err ∧ out ++ err = Table.text headings rows

variable {outcome : Outcome} {headings : Headings} {rows : List Row} {program : Text}
  {args : List Text}

theorem Outcome.Prints.text_eq (h : outcome.Prints headings rows) :
    outcome.text program args = .ok (Table.text headings rows) := by
  obtain ⟨out, err, rfl, htext⟩ := h
  exact congrArg Except.ok htext

/-! ## The name in the tray -/

namespace Tray

variable {tray : Tray} {network : Option String}

theorem state_after_setNetwork (tray : Tray) (network : Option String) :
    (tray.after (.setNetwork network)).state = (State.setNetwork network tray.state).2 := by
  rw [after, work_setNetwork, Change.state_run_work]
  rfl

theorem network_after_setNetwork (tray : Tray) (network : Option String) :
    (tray.after (.setNetwork network)).state.network = network := by
  rw [state_after_setNetwork, State.setNetwork]
  split
  · next h => exact h
  · rfl

/-- The signal of a new name of the network, and of no other. -/
theorem signals_after_setNetwork (tray : Tray) (network : Option String) :
    (tray.after (.setNetwork network)).signals = tray.signals.map (· ++
      if tray.state.network = (tray.after (.setNetwork network)).state.network then []
      else [.layoutUpdated (tray.after (.setNetwork network)).state.revision Menu.rootId]) := by
  rw [signals_after, network_after_setNetwork]
  split
  · next h => rw [state_after_setNetwork, State.setNetwork, if_pos h, State.announcement_self]
  · next h =>
    have hconnected : tray.state.connected =
        (tray.after (.setNetwork network)).state.connected := by
      rw [state_after_setNetwork, State.setNetwork, if_neg h]
      rfl
    rw [State.announcement_of_eq hconnected (.inr (.inl ?_))]
    rwa [network_after_setNetwork]

end Tray

/-! ## The name in the menu -/

/-- The number of the item that shows the network. -/
def Menu.networkId : Int32 := 14

theorem Menu.property?_network (s : State) :
    Menu.property? s Menu.networkId "label" = some (.text ("Network: " ++ s.network.getD "-")) :=
  rfl

/-- A dash stands for no name on the way to the tray, and no name for a dash on the way to the
    menu. -/
theorem Monitor.getD_networkName (account : Account) :
    (networkName account).getD "-" = .ofList account.network := by
  rw [networkName]
  split
  · next h => rw [h]; rfl
  · rfl

/-! ## Looking the network up -/

namespace Monitor

variable {monitor : Monitor} {log : Log} {watched : Watched}

/-- What is watched once it has been told of the account, if there is one. -/
def withAccount (watched : Watched) : Except Error Account → Watched
  | .ok account => { watched with tray := watched.tray.after (.setNetwork (networkName account)) }
  | .error _ => watched

/-- The client is asked for the account, and the tray takes the name of the network. -/
theorem run_refreshNetwork (monitor : Monitor) (watched : Watched) :
    monitor.refreshNetwork.run watched = .run monitor.client.accountRun fun outcome =>
      return ((), withAccount watched (monitor.client.accountOf outcome)) := by
  rw [refreshNetwork, StateT.run_bind, StateT.run_monadLift]
  simp only [monadLift_self, Client.run_account]
  refine congrArg (Shell.run _) (funext fun outcome => ?_)
  beta_reduce
  generalize monitor.client.accountOf outcome = said
  cases said with
  | ok account => rfl
  | error cause => rfl

theorem signals_withAccount (watched : Watched) (said : Except Error Account) :
    (withAccount watched said).tray.signals = watched.tray.signals.map (· ++
      if watched.tray.state.network = (withAccount watched said).tray.state.network then []
      else [.layoutUpdated (withAccount watched said).tray.state.revision Menu.rootId]) := by
  cases said with
  | ok account => exact Tray.signals_after_setNetwork _ _
  | error cause => simp [withAccount]

/-- What comes of looking the network up when the client ends in some way: what is run, what is said
    of the account, and what is watched before and after. -/
structure LookedUp (monitor : Monitor) (outcome : Outcome) (log : Log)
    (said : Except Error Account) (before after : Watched) : Prop where
  /-- The client is run once, and nothing else is. -/
  runs : log = [(monitor.client.accountRun, outcome)]
  /-- The account is what is shown of the first row. -/
  account : ∀ headings row more, outcome.Prints headings (row :: more) →
    said = .ok ⟨row.shown 0, row.shown 1, row.shown 2⟩
  /-- The menu shows the second cell of the row as the network. -/
  label : ∀ headings row more, outcome.Prints headings (row :: more) →
    Menu.property? after.tray.state Menu.networkId "label" =
      some (.text ("Network: " ++ .ofList (row.shown 1)))
  /-- The desktop is told about the menu if the name of the network is another one than before, and
      about nothing else. -/
  signals : after.tray.signals = before.tray.signals.map (· ++
    if before.tray.state.network = after.tray.state.network then []
    else [.layoutUpdated after.tray.state.revision Menu.rootId])
  /-- If the client fails, there is no account, and nothing changes. -/
  failed : outcome.succeeded = false → (∃ cause, said = .error cause) ∧ after = before

theorem lookedUp_withAccount (monitor : Monitor) (outcome : Outcome) (watched : Watched) :
    LookedUp monitor outcome [(monitor.client.accountRun, outcome)]
      (monitor.client.accountOf outcome) watched
      (withAccount watched (monitor.client.accountOf outcome)) := by
  have haccount : ∀ headings row more, outcome.Prints headings (row :: more) →
      monitor.client.accountOf outcome = .ok (Account.inRow row) := by
    intro headings row more hprints
    rw [Client.accountOf, hprints.text_eq, Except.map, Account.getD_ofTable?_text]
  refine ⟨rfl, haccount, ?label, signals_withAccount _ _, ?failed⟩
  case label =>
    intro headings row more hprints
    rw [haccount headings row more hprints, Menu.property?_network, withAccount,
      Tray.network_after_setNetwork, getD_networkName]
    rfl
  case failed =>
    intro hfailed
    obtain ⟨cause, hcause⟩ := Client.exists_accountOf hfailed monitor.client
    rw [hcause]
    exact ⟨⟨cause, rfl⟩, rfl⟩

/-- The menu shows the network of the first account, in whatever state the tray was before. -/
theorem lookedUp (monitor : Monitor) (watched : Watched) {σ : Type}
    (machine : Run → σ → Outcome × σ) (s : σ) :
    LookedUp monitor (machine monitor.client.accountRun s).1
      ((monitor.refreshNetwork.run watched).log machine s)
      (monitor.client.account.run.exec machine s).1
      watched ((monitor.refreshNetwork.run watched).exec machine s).1.2 := by
  rw [Client.run_account, run_refreshNetwork]
  exact lookedUp_withAccount monitor _ watched

end Monitor

end VpnTray
