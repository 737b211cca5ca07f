import VpnTray.Desktop
import VpnTray.Proofs.Shell.Log
import VpnTray.Proofs.Text.Blank

/-!
# What the desktop runs

The user is notified by one run, or by none if notifications are not wanted
(`Desktop.notification`). A message box is one run (`Desktop.messageBox`), and so is a picker
(`Desktop.picker`). What the picker prints is a row and a line end, from which the row is read back
(`choice?_append_newline`), or nothing but line ends, from which none is (`choice?_eq_none_iff`).
-/

namespace VpnTray

open Text Shell

/-- Only a program that ran with success has printed something for others to read. -/
theorem Outcome.exists_of_out? {outcome : Outcome} {out : Text} (h : outcome.out? = some out) :
    ∃ err, outcome = .finished true out err := by
  rcases outcome with _ | _ | ⟨success, printed, err⟩
  · cases h
  · cases h
  · cases success with
    | false => cases h
    | true =>
      obtain rfl := Option.some.inj h
      exact ⟨err, rfl⟩

/-- A row is read back from what the picker has printed, unless it ends like a line itself. -/
theorem choice?_append_newline {row : Text} (hne : row ≠ [])
    (hlast : ∀ c ∈ row.getLast?, c ≠ '\r' ∧ c ≠ '\n') : choice? (row ++ ['\n']) = some row := by
  have hdrop : dropTail (fun c => c == '\r' || c == '\n') (row ++ ['\n']) = row := by
    rw [dropTail_eq_rdropWhile, List.rdropWhile_concat_pos _ _ _ (by decide)]
    refine List.rdropWhile_eq_self_iff.2 fun hrow hend => ?_
    obtain ⟨hreturn, hfeed⟩ := hlast _ (List.getLast?_eq_some_getLast hrow)
    rcases Bool.or_eq_true_iff.1 hend with heq | heq
    · exact hreturn (beq_iff_eq.1 heq)
    · exact hfeed (beq_iff_eq.1 heq)
  rw [choice?, hdrop]
  exact if_neg (by simpa using hne)

/-- Nothing was picked if nothing but line ends was printed. -/
theorem choice?_eq_none_iff {output : Text} :
    choice? output = none ↔ ∀ c ∈ output, c = '\r' ∨ c = '\n' := by
  rw [choice?, dropTail_eq_rdropWhile]
  simp only [ite_eq_left_iff, reduceCtorEq, imp_false, not_not, List.isEmpty_iff,
    List.rdropWhile_eq_nil_iff, Bool.or_eq_true, beq_iff_eq]

namespace Desktop

variable {desktop : Desktop} {log : Log}

/-- The runs by which the user is notified: none if notifications are not wanted. -/
def notification (desktop : Desktop) (title body : Text) : List Run :=
  if desktop.notifications then
    [{ program := "notify-send"
       args := ["-a", "Twingate Tray", "-t", decimal desktop.timeoutMs.toNat, title, body] }]
  else []

/-- The run that lets the user pick one of some rows. -/
def picker (title text column : Text) (options : List Text) : Run :=
  { program := "zenity"
    args := (["--list", "--title=" ++ title, "--text=" ++ text, "--column=" ++ column,
      "--width=600", "--height=400"] : List Text) ++ options }

theorem runs_of_notify {title body : Text} {u : Unit} (h : Ends (desktop.notify title body) log u) :
    log.map (·.1) = desktop.notification title body := by
  rw [notify] at h
  rw [notification]
  split at h
  · next hwanted =>
    obtain ⟨outcome, hcall⟩ := ends_discard_iff.1 h
    obtain rfl := ends_call_iff.1 hcall
    rw [if_pos hwanted]
    rfl
  · next hwanted =>
    obtain ⟨rfl, -⟩ := ends_pure_iff.1 h
    rw [if_neg hwanted]
    rfl

theorem only_notify_of {p : Run → Prop} {title body : Text}
    (h : ∀ r ∈ desktop.notification title body, p r) : Only p (desktop.notify title body) := by
  intro log u hends entry hentry
  exact h entry.1 (runs_of_notify hends ▸ List.mem_map_of_mem hentry)

/-- The run that shows a message box. -/
def messageBox (desktop : Desktop) (title text : Text) : Run :=
  match desktop.dialog with
  | .zenity => { program := "zenity", args := ["--title", title, "--info", "--text", text] }
  | .kdialog => { program := "kdialog", args := ["--title", title, "--msgbox", text] }

theorem runs_of_showMessage {title text : Text} {u : Unit}
    (h : Ends (desktop.showMessage title text) log u) :
    log.map (·.1) = [desktop.messageBox title text] := by
  rw [showMessage] at h
  rw [messageBox]
  cases hdialog : desktop.dialog with
  | zenity | kdialog =>
    rw [hdialog] at h
    obtain ⟨outcome, hcall⟩ := ends_discard_iff.1 h
    obtain rfl := ends_call_iff.1 hcall
    rfl

theorem only_showMessage_of {p : Run → Prop} {title text : Text}
    (h : p (desktop.messageBox title text)) : Only p (desktop.showMessage title text) := by
  intro log u hends entry hentry
  have hmem : entry.1 ∈ [desktop.messageBox title text] :=
    runs_of_showMessage hends ▸ List.mem_map_of_mem hentry
  exact List.mem_singleton.1 hmem ▸ h

theorem ends_choose_iff {title text column : Text} {options : List Text} {row? : Option Text} :
    Ends (choose title text column options) log row? ↔
      ∃ outcome, log = [(picker title text column options, outcome)] ∧
        row? = outcome.out?.bind choice? := by
  rw [choose, ends_call_bind_iff]
  constructor
  · rintro ⟨outcome, rest, rfl, hrest⟩
    obtain ⟨rfl, rfl⟩ := ends_pure_iff.1 hrest
    exact ⟨outcome, rfl, rfl⟩
  · rintro ⟨outcome, rfl, rfl⟩
    exact ⟨outcome, [], rfl, ends_pure_iff.2 ⟨rfl, rfl⟩⟩

end Desktop

end VpnTray
