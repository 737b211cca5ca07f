import VpnTray.Proofs.Actions.Undertaking
import VpnTray.Proofs.Shell.Turns

/-!
# What is done by the user

Nearly all that the tray runs is run by the user: the programs of the desktop, the client when
it is only asked for something, and the tools that tell of the connection. So no command that
shows something, or that opens a page, runs a program with the right to change the system,
whatever comes of the programs that it does run.
-/

namespace VpnTray

open Text Shell

variable {client : Client} {actions : Actions}

/-! ## The desktop -/

namespace Desktop

theorem unelevated_of_mem_notification {desktop : Desktop} {title body : Text} {r : Run}
    (h : r ∈ desktop.notification title body) : Unelevated client r := by
  rw [Desktop.notification] at h
  split at h
  · obtain rfl := List.mem_singleton.1 h
    exact .inr (show ("notify-send" : Text) ∉ elevators by decide)
  · cases h

theorem only_notify (desktop : Desktop) (title body : Text) :
    Only (Unelevated client) (desktop.notify title body) :=
  only_notify_of fun _ => unelevated_of_mem_notification

theorem zenity_not_mem_elevators : ("zenity" : Text) ∉ elevators := by decide

theorem only_showMessage (desktop : Desktop) (title text : Text) :
    Only (Unelevated client) (desktop.showMessage title text) := by
  refine only_showMessage_of (.inr ?_)
  rw [messageBox]
  split
  · exact zenity_not_mem_elevators
  · exact (by decide : ("kdialog" : Text) ∉ elevators)

theorem only_choose (title text column : Text) (options : List Text) :
    Only (Unelevated client) (choose title text column options) :=
  (only_call (.inr zenity_not_mem_elevators)).bind fun _ => only_pure _ _

theorem only_pipeToFirst (text : Text) {tools : List (Text × List Text)}
    (h : ∀ tool ∈ tools, tool.1 ∉ elevators) :
    Only (Unelevated client) (pipeToFirst text tools) := by
  induction tools with
  | nil => exact only_pure _ _
  | cons tool tools ih =>
    obtain ⟨htool, htools⟩ := List.forall_mem_cons.1 h
    refine (only_call (.inr htool)).bind fun outcome => ?_
    split
    · exact only_pure _ _
    · exact ih htools

theorem only_copy (desktop : Desktop) (text : Text) :
    Only (Unelevated client) (desktop.copy text) := by
  have htools : ∀ tool ∈ clipboardTools, tool.1 ∉ elevators := by decide
  have hcopy : Only (Unelevated client) (copyToClipboard text).run := by
    refine (only_pipeToFirst text htools).bind fun copied => ?_
    split
    · exact only_pure _ _
    · exact only_pure _ _
  refine hcopy.bind fun result => ?_
  split
  · exact only_notify _ _ _
  · exact only_notify _ _ _

theorem only_showCopyable (desktop : Desktop) (limit : Nat) (title text : Text) :
    Only (Unelevated client) (desktop.showCopyable limit title text) := by
  refine Only.turns ?_ limit
  refine Only.bind (only_call (.inr zenity_not_mem_elevators)) fun outcome => ?_
  split
  · split
    · exact (only_copy _ _).bind fun _ => only_pure _ _
    · exact only_pure _ _
  · exact (only_showMessage _ _ _).bind fun _ => only_pure _ _
  · exact (only_showMessage _ _ _).bind fun _ => only_pure _ _

end Desktop

theorem only_openUrl (url : Text) : Only (Unelevated client) (openUrl url).run := by
  have hopen : ("xdg-open" : Text) ∉ elevators := by decide
  refine Only.attempt_bind (only_call (.inr hopen)).lift fun outcome => ?_
  cases outcome with
  | refused | unread | finished => exact only_pure _ _

/-! ## Commands -/

namespace Actions

theorem only_report {α : Type} {work : Attempt α} (h : Only (Unelevated client) work.run)
    (success : Option (Text × Text)) (failure : Text × Text) :
    Only (Unelevated client) (actions.report work success failure) := by
  refine h.bind fun result => ?_
  split
  · split
    · exact Desktop.only_notify _ _ _
    · exact only_pure _ _
  · exact Desktop.only_notify _ _ _

theorem only_showConnectionInfo (limit : Nat) (now : Int) :
    Only (Unelevated actions.client) (actions.showConnectionInfo limit now) :=
  (ConnectionInfo.only_gather now).bind fun _ => (Desktop.only_showCopyable _ _ _ _).discard

theorem only_showResources : Only (Unelevated actions.client) actions.showResources := by
  refine only_resources.bind fun result => ?_
  split
  · exact Desktop.only_notify _ _ _
  · split
    · exact Desktop.only_showMessage _ _ _
    · refine (Desktop.only_choose _ _ _ _).bind fun row? => ?_
      split
      · split
        · split
          · exact only_report (only_authenticate _) _ _
          · exact only_pure _ _
        · exact only_pure _ _
      · exact only_pure _ _

theorem only_openWebAdmin : Only (Unelevated actions.client) actions.openWebAdmin := by
  refine only_account.bind fun result => ?_
  split
  · exact Desktop.only_notify _ _ _
  · split
    · exact Desktop.only_notify _ _ _
    · exact only_report (only_openUrl _) _ _

theorem only_diagnosticReport : Only (Unelevated actions.client) actions.diagnosticReport :=
  only_report only_output _ _

theorem only_showAbout : Only (Unelevated actions.client) actions.showAbout :=
  (ConnectionInfo.only_optional only_output).bind fun _ => Desktop.only_showMessage _ _ _

end Actions

end VpnTray
