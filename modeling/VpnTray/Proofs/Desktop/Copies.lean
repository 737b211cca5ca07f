import VpnTray.Proofs.Desktop
import VpnTray.Proofs.Shell.Turns
import VpnTray.Script

/-!
# A text that can be copied

A window shows a text until it is closed. If it is closed by the button for copying, the text is
put on the clipboard by the first program that takes all of it and ends with success, the user is
told whether there was one, and the window is opened again. If the window cannot be opened, or does
not take all of the text, a message box is run to show it.

How often this goes on is up to the user, and the programs may do something else each time. From
one opening of the window to the next no program is run twice with the same arguments, so that all
that they do can be told by a function from runs to outcomes for each opening (`byOpening`).

* `copyRuns`, `closingRuns`: what is run after a request to copy, and after any other result;
* `shownLog`: the log of `n` requests to copy and of a last result;
* `Copied`: what the log tells, as it is if the results of the window are these
  (`copied_showCopyable`). The limit of the loop may be any that leaves room for them.
-/

namespace VpnTray

open Text Shell

/-- The window was closed by the button for copying. -/
def Outcome.asksCopy : Outcome → Bool
  | .finished _ out _ => trim out = "Copy to Clipboard"
  | .refused _ | .unread => false

/-- The program was started, took all that it was given to read, and ended. -/
def Outcome.isFinished : Outcome → Bool
  | .finished .. => true
  | .refused _ | .unread => false

/-- Runs with their outcomes, as they are answered. -/
def entries (answer : Run → Outcome) (runs : List Run) : Log := runs.map fun r => (r, answer r)

theorem entries_append (answer : Run → Outcome) (runs others : List Run) :
    entries answer (runs ++ others) = entries answer runs ++ entries answer others :=
  List.map_append

namespace Desktop

/-- The window with a text. -/
def window (title text : Text) : Run :=
  { program := "zenity"
    args := ["--text-info", "--title=" ++ title, "--width=550", "--height=500",
      "--font=monospace", "--ok-label=OK", "--extra-button=Copy to Clipboard"]
    stdin := text }

/-- The programs that are given a text for the clipboard. -/
def clipboardRuns (text : Text) : List Run := [
  { program := "wl-copy", args := [], stdin := text },
  { program := "xclip", args := ["-selection", "clipboard"], stdin := text },
  { program := "xsel", args := ["--clipboard", "--input"], stdin := text }]

/-- The first of some runs, up to the first one that succeeds. -/
def untilSuccess (answer : Run → Outcome) (runs : List Run) : List Run :=
  runs.take (runs.findIdx (fun r => (answer r).succeeded) + 1)

variable (desktop : Desktop)

/-- What is run after a request to copy: programs for the clipboard until one of them takes the
    text, and what tells the user whether one did. -/
def copyRuns (text : Text) (answer : Run → Outcome) : List Run :=
  untilSuccess answer (clipboardRuns text) ++
    if (clipboardRuns text).any fun r => (answer r).succeeded then
      desktop.notification "Copied" "Connection info copied to clipboard"
    else
      desktop.notification "Copy Failed" "Failed to copy: no clipboard tool available"

/-- What is run after a result of the window that is no request to copy. -/
def closingRuns (title text : Text) (result : Outcome) : List Run :=
  if result.isFinished then [] else [desktop.messageBox title (escapeMarkup text)]

/-- The log of `n` requests to copy and of a last result, where `answers k` tells how programs end
    from the opening of the window with the number `k` on. -/
def shownLog (title text : Text) (answers : Nat → Run → Outcome) (n : Nat) : Log :=
  ((List.range n).flatMap fun k =>
    entries (answers k) (window title text :: desktop.copyRuns text (answers k))) ++
  entries (answers n)
    (window title text :: desktop.closingRuns title text (answers n (window title text)))

/-- A machine on which programs end by how often the window has been opened. -/
def byOpening (title text : Text) (answers : Nat → Run → Outcome) (r : Run) (opened : Nat) :
    Outcome × Nat :=
  if r = window title text then (answers opened r, opened + 1) else (answers (opened - 1) r, opened)

variable {desktop} {title text : Text} {answers : Nat → Run → Outcome}

/-! ## One copy -/

section Still

-- The machine stays in one state while programs are run, as between two openings of the window.
variable {σ : Type} {machine : Run → σ → Outcome × σ} {answer : Run → Outcome} {s : σ}

/-- A program for the clipboard, when it is given a text. -/
def toolRun (text : Text) (tool : Text × List Text) : Run :=
  { program := tool.1, args := tool.2, stdin := text }

theorem untilSuccess_cons (r : Run) (runs : List Run) :
    untilSuccess answer (r :: runs) =
      r :: if (answer r).succeeded then [] else untilSuccess answer runs := by
  rw [untilSuccess, List.findIdx_cons]
  cases (answer r).succeeded <;> rfl

/-- A text is given to one program after the other until one of them succeeds. -/
theorem log_pipeToFirst {tools : List (Text × List Text)}
    (h : ∀ tool ∈ tools, machine (toolRun text tool) s = (answer (toolRun text tool), s)) :
    (pipeToFirst text tools).log machine s =
        entries answer (untilSuccess answer (tools.map (toolRun text))) ∧
      (pipeToFirst text tools).exec machine s =
        ((tools.map (toolRun text)).any fun r => (answer r).succeeded, s) := by
  induction tools with
  | nil => exact ⟨rfl, rfl⟩
  | cons tool tools ih =>
    obtain ⟨htool, htools⟩ := List.forall_mem_cons.1 h
    obtain ⟨hlog, hexec⟩ := ih htools
    have hcall : machine { program := tool.1, args := tool.2, stdin := text } s =
        (answer (toolRun text tool), s) := htool
    rw [pipeToFirst, log_bind, exec_bind, log_call, exec_call, hcall, List.map_cons,
      untilSuccess_cons, List.any_cons]
    cases hsucceeded : (answer (toolRun text tool)).succeeded with
    | true => exact ⟨rfl, rfl⟩
    | false => exact ⟨congrArg _ hlog, hexec⟩

theorem log_notify {title body : Text}
    (h : ∀ r ∈ desktop.notification title body, machine r s = (answer r, s)) :
    (desktop.notify title body).log machine s =
        entries answer (desktop.notification title body) ∧
      (desktop.notify title body).exec machine s = ((), s) := by
  unfold notify notification at *
  split
  next hwanted =>
    rw [if_pos hwanted] at h
    have hrun := List.forall_mem_singleton.1 h
    rw [discard, map_const, Function.comp_apply, map_eq_pure_bind, log_bind, exec_bind, log_call,
      exec_call, hrun]
    exact ⟨rfl, rfl⟩
  next hwanted => exact ⟨rfl, rfl⟩

theorem copy_eq (desktop : Desktop) (text : Text) :
    desktop.copy text = pipeToFirst text clipboardTools >>= fun taken =>
      if taken then desktop.notify "Copied" "Connection info copied to clipboard"
      else desktop.notify "Copy Failed" "Failed to copy: no clipboard tool available" := by
  rw [copy, copyToClipboard, ExceptT.run_mk, LawfulMonad.bind_assoc]
  refine congrArg _ (funext fun taken => ?_)
  cases taken with
  | true => rfl
  | false => rfl

/-- A copy is made by programs that are not the one for windows. -/
theorem log_copy (h : ∀ r, r.program ≠ "zenity".toList → machine r s = (answer r, s)) :
    (desktop.copy text).log machine s = entries answer (desktop.copyRuns text answer) ∧
      (desktop.copy text).exec machine s = ((), s) := by
  have htools : ∀ tool ∈ clipboardTools,
      machine (toolRun text tool) s = (answer (toolRun text tool), s) := by
    have hprograms : ∀ tool ∈ clipboardTools, tool.1 ≠ "zenity".toList := by decide
    exact fun tool htool => h _ (hprograms tool htool)
  have hnotify : ∀ title body, ∀ r ∈ desktop.notification title body,
      machine r s = (answer r, s) := by
    intro title body r hr
    have hprogram : "notify-send".toList ≠ "zenity".toList := by decide
    rw [notification] at hr
    split at hr
    · obtain rfl := List.mem_singleton.1 hr
      exact h _ hprogram
    · cases hr
  have hruns : clipboardTools.map (toolRun text) = clipboardRuns text := rfl
  obtain ⟨hlog, hexec⟩ := log_pipeToFirst htools
  rw [hruns] at hlog hexec
  rw [copy_eq, log_bind, exec_bind, hlog, hexec, copyRuns, entries_append]
  dsimp only
  split
  · obtain ⟨hlog, hexec⟩ := log_notify (hnotify "Copied" "Connection info copied to clipboard")
    exact ⟨congrArg _ hlog, hexec⟩
  · obtain ⟨hlog, hexec⟩ :=
      log_notify (hnotify "Copy Failed" "Failed to copy: no clipboard tool available")
    exact ⟨congrArg _ hlog, hexec⟩

end Still

/-! ## All openings of the window -/

/-- The window is opened again only after a request to copy. -/
theorem showOnce_eq (desktop : Desktop) (title text : Text) :
    desktop.showOnce title text = openWindow title text >>= fun result =>
      if result.asksCopy then desktop.copy text >>= fun _ => pure false
      else (if result.isFinished then pure () else
        desktop.showMessage title (escapeMarkup text)) >>= fun _ => pure true := by
  rw [showOnce]
  refine congrArg _ (funext fun result => ?_)
  cases result with
  | refused cause => rfl
  | unread => rfl
  | finished success out err => rfl

theorem byOpening_of_ne {r : Run} (h : r ≠ window title text) (opened : Nat) :
    byOpening title text answers r (opened + 1) = (answers opened r, opened + 1) :=
  if_neg h

theorem log_openWindow (title text : Text) (answers : Nat → Run → Outcome) (opened : Nat) :
    (openWindow title text).log (byOpening title text answers) opened =
        [(window title text, answers opened (window title text))] ∧
      (openWindow title text).exec (byOpening title text answers) opened =
        (answers opened (window title text), opened + 1) := by
  have hwindow : byOpening title text answers (window title text) opened =
      (answers opened (window title text), opened + 1) := if_pos rfl
  exact ⟨congrArg (fun result : Outcome × Nat => [(window title text, result.1)]) hwindow, hwindow⟩

theorem log_showMessage {σ : Type} {machine : Run → σ → Outcome × σ} {body : Text} (s : σ) :
    (desktop.showMessage title body).log machine s =
      [(desktop.messageBox title body, (machine (desktop.messageBox title body) s).1)] := by
  rw [showMessage, messageBox]
  cases desktop.dialog with
  | zenity => rfl
  | kdialog => rfl

theorem messageBox_ne_window (desktop : Desktop) (title text body : Text) :
    desktop.messageBox title body ≠ window title text := by
  intro h
  have hargs : (desktop.messageBox title body).args.head? = some "--title".toList := by
    rw [messageBox]
    cases desktop.dialog <;> rfl
  have hne : some "--title".toList ≠ some "--text-info".toList := by decide
  rw [h] at hargs
  exact hne hargs.symm

/-- A request to copy is answered by a copy, and then the window is to be opened once more. -/
theorem log_showOnce_of_copy (desktop : Desktop) {opened : Nat}
    (h : (answers opened (window title text)).asksCopy = true) :
    (desktop.showOnce title text).log (byOpening title text answers) opened =
        entries (answers opened) (window title text :: desktop.copyRuns text (answers opened)) ∧
      (desktop.showOnce title text).exec (byOpening title text answers) opened =
        (false, opened + 1) := by
  have hstill : ∀ r, r.program ≠ "zenity".toList →
      byOpening title text answers r (opened + 1) = (answers opened r, opened + 1) :=
    fun r hr => byOpening_of_ne (fun heq => hr (congrArg Run.program heq)) opened
  obtain ⟨hlog, hexec⟩ := log_openWindow title text answers opened
  obtain ⟨hcopyLog, hcopyExec⟩ := log_copy hstill
  rw [showOnce_eq, log_bind, exec_bind, hlog, hexec]
  dsimp only
  rw [if_pos h, log_bind, exec_bind, hcopyLog, hcopyExec]
  exact ⟨congrArg _ (List.append_nil _), rfl⟩

/-- After any other result, the text is done with. -/
theorem log_showOnce_of_last (desktop : Desktop) {opened : Nat}
    (h : (answers opened (window title text)).asksCopy = false) :
    (desktop.showOnce title text).log (byOpening title text answers) opened =
        entries (answers opened) (window title text ::
          desktop.closingRuns title text (answers opened (window title text))) ∧
      ((desktop.showOnce title text).exec (byOpening title text answers) opened).1 = true := by
  obtain ⟨hlog, hexec⟩ := log_openWindow title text answers opened
  rw [showOnce_eq, log_bind, exec_bind, hlog, hexec]
  dsimp only
  rw [if_neg (Bool.eq_false_iff.1 h), closingRuns, log_bind, exec_bind]
  split
  · exact ⟨rfl, rfl⟩
  · rw [log_showMessage, byOpening_of_ne (messageBox_ne_window _ _ _ _)]
    exact ⟨rfl, rfl⟩

theorem shownLog_succ (answers : Nat → Run → Outcome) (n : Nat) :
    desktop.shownLog title text answers (n + 1) =
      entries (answers 0) (window title text :: desktop.copyRuns text (answers 0)) ++
        desktop.shownLog title text (fun k => answers (k + 1)) n := by
  rw [shownLog, List.range_succ_eq_map, List.flatMap_cons, List.flatMap_map, List.append_assoc]
  rfl

/-- The loop takes one turn more than there are requests to copy. -/
theorem log_turns_showOnce (desktop : Desktop) {n : Nat} (opened : Nat)
    (hcopy : ∀ k < n, (answers (opened + k) (window title text)).asksCopy)
    (hlast : (answers (opened + n) (window title text)).asksCopy = false) :
    (turns (desktop.showOnce title text) (n + 1)).log (byOpening title text answers) opened =
        desktop.shownLog title text (fun k => answers (opened + k)) n ∧
      ((turns (desktop.showOnce title text) (n + 1)).exec
        (byOpening title text answers) opened).1 = true := by
  induction n generalizing opened with
  | zero =>
    have hclosed : (answers opened (window title text)).asksCopy = false := hlast
    obtain ⟨hlog, hexec⟩ := log_showOnce_of_last desktop hclosed
    rw [turns_succ, log_bind, exec_bind, hlog, hexec]
    exact ⟨List.append_nil _, rfl⟩
  | succ n ih =>
    have hfirst : (answers opened (window title text)).asksCopy = true :=
      hcopy 0 (Nat.zero_lt_succ n)
    have hshift : ∀ k, opened + 1 + k = opened + (k + 1) := fun k => by omega
    have hrest := ih (opened + 1)
    simp only [hshift] at hrest
    obtain ⟨hrestLog, hrestExec⟩ :=
      hrest (fun k hk => hcopy (k + 1) (Nat.succ_lt_succ hk)) hlast
    obtain ⟨hlog, hexec⟩ := log_showOnce_of_copy desktop hfirst
    rw [turns_succ, log_bind, exec_bind, hlog, hexec, shownLog_succ]
    exact ⟨congrArg _ hrestLog, hrestExec⟩

/-! ## What the log tells -/

/-- What is run when the window has `n` requests to copy for results, and then one that is none. -/
structure Copied (desktop : Desktop) (title text : Text) (answers : Nat → Run → Outcome) (n : Nat)
    (log : Log) : Prop where
  /-- All that is run, in its order. -/
  log_eq : log = desktop.shownLog title text answers n
  /-- The window is opened once more than there are requests, with the text as it is. -/
  opened : (log.map (·.1)).count (window title text) = n + 1
  /-- A message box is run if in the end the window could not be opened, or did not take all of the
      text, and never otherwise. -/
  boxes : (log.map (·.1)).count (desktop.messageBox title (escapeMarkup text)) =
    if (answers n (window title text)).isFinished then 0 else 1
  /-- The log is that of the loop as it is without any limit. -/
  loops : Loops (desktop.showOnce title text) log

theorem map_entries (answer : Run → Outcome) (runs : List Run) :
    (entries answer runs).map (·.1) = runs := by
  rw [entries, List.map_map]
  exact List.map_id runs

theorem runs_shownLog (answers : Nat → Run → Outcome) (n : Nat) :
    (desktop.shownLog title text answers n).map (·.1) =
      ((List.range n).flatMap fun k => window title text :: desktop.copyRuns text (answers k)) ++
      window title text :: desktop.closingRuns title text (answers n (window title text)) := by
  rw [shownLog, List.map_append, List.map_flatMap, map_entries]
  simp only [map_entries]

/-- The programs that are run for a copy. -/
def copyPrograms : List Text := ["wl-copy", "xclip", "xsel", "notify-send"]

theorem program_mem_of_mem_copyRuns {answer : Run → Outcome} {r : Run}
    (h : r ∈ desktop.copyRuns text answer) : r.program ∈ copyPrograms := by
  rcases List.mem_append.1 h with h | h
  · have hclipboard : r ∈ clipboardRuns text := List.mem_of_mem_take h
    simp only [clipboardRuns, List.mem_cons, List.not_mem_nil, or_false] at hclipboard
    rcases hclipboard with rfl | rfl | rfl <;> simp [copyPrograms]
  · have hnotification : ∃ title body, r ∈ desktop.notification title body := by
      split at h
      · exact ⟨_, _, h⟩
      · exact ⟨_, _, h⟩
    obtain ⟨title, body, h⟩ := hnotification
    rw [notification] at h
    split at h
    · obtain rfl := List.mem_singleton.1 h
      simp [copyPrograms]
    · cases h

/-- No program for copies is the one for windows or for message boxes. -/
theorem count_copies {r : Run} (h : r.program ∉ copyPrograms) (answers : Nat → Run → Outcome)
    (n : Nat) :
    ((List.range n).flatMap fun k =>
        window title text :: desktop.copyRuns text (answers k)).count r =
      if window title text = r then n else 0 := by
  induction n with
  | zero => simp
  | succ n ih =>
    have hcopy : (desktop.copyRuns text (answers n)).count r = 0 :=
      List.count_eq_zero.2 fun hmem => h (program_mem_of_mem_copyRuns hmem)
    rw [List.range_succ, List.flatMap_append, List.flatMap_singleton, List.count_append, ih,
      List.count_cons, hcopy]
    by_cases hr : window title text = r
    · simp [hr]
    · simp [hr]

theorem program_window_notMem : (window title text).program ∉ copyPrograms := by
  have hzenity : "zenity".toList ∉ copyPrograms := by decide
  exact hzenity

theorem program_messageBox_notMem (body : Text) :
    (desktop.messageBox title body).program ∉ copyPrograms := by
  have hprograms : "zenity".toList ∉ copyPrograms ∧ "kdialog".toList ∉ copyPrograms := by decide
  rw [messageBox]
  cases desktop.dialog with
  | zenity => exact hprograms.1
  | kdialog => exact hprograms.2

/-- Whatever the programs do, the text is copied as often as the user asks for it. -/
theorem copied_showCopyable (desktop : Desktop) (title text : Text)
    (answers : Nat → Run → Outcome) {n limit : Nat} (hlimit : n < limit)
    (hcopy : ∀ k < n, (answers k (window title text)).asksCopy = true)
    (hlast : (answers n (window title text)).asksCopy = false) :
    Copied desktop title text answers n
      ((desktop.showCopyable limit title text).log (byOpening title text answers) 0) := by
  obtain ⟨hlog, hexec⟩ := log_turns_showOnce desktop (n := n) 0
    (fun k hk => (Nat.zero_add k).symm ▸ hcopy k hk) ((Nat.zero_add n).symm ▸ hlast)
  simp only [Nat.zero_add] at hlog
  obtain ⟨hsame, -⟩ := turns_of_le hlimit hexec
  have hends := ends_log (byOpening title text answers)
    (turns (desktop.showOnce title text) (n + 1)) 0
  rw [hlog, hexec] at hends
  rw [showCopyable, hsame, hlog]
  have hne := messageBox_ne_window desktop title text (escapeMarkup text)
  refine ⟨rfl, ?_, ?_, loops_iff.2 ⟨n + 1, hends⟩⟩
  · rw [runs_shownLog, List.count_append, count_copies program_window_notMem, if_pos rfl,
      List.count_cons_self, closingRuns]
    split <;> simp [hne]
  · rw [runs_shownLog, List.count_append, count_copies (program_messageBox_notMem _),
      if_neg hne.symm, List.count_cons_of_ne hne.symm, closingRuns]
    split <;> simp

/-- The window is closed by the button twice, and then it cannot be opened any more. The first
    time only the third program takes the text, and the second time none does. -/
def vanishing (opening : Nat) (r : Run) : Outcome :=
  if r.program = "zenity".toList then
    if opening < 2 then .finished true "Copy to Clipboard\n" [] else .refused .notFound
  else if r.program = "wl-copy".toList then .refused .notFound
  else if r.program = "xclip".toList then .unread
  else if r.program = "xsel".toList then .finished (opening = 0) [] []
  else .finished true [] []

/-- Two copies are tried, the window is opened three times, and there is one message box. -/
theorem copied_vanishing :
    2 < 3 ∧ (∀ k < 2, (vanishing k (window "Info" "a & b")).asksCopy = true) ∧
      (vanishing 2 (window "Info" "a & b")).asksCopy = false ∧
      Copied {} "Info" "a & b" vanishing 2
        (({} : Desktop).showCopyable 3 "Info" "a & b"
          |>.log (byOpening "Info" "a & b" vanishing) 0) := by
  have hcopy : ∀ k < 2, (vanishing k (window "Info" "a & b")).asksCopy = true := by decide
  have hlast : (vanishing 2 (window "Info" "a & b")).asksCopy = false := by decide
  exact ⟨by decide, hcopy, hlast,
    copied_showCopyable {} "Info" "a & b" vanishing (by decide) hcopy hlast⟩

/-- A machine with one program, which shows message boxes. -/
def onlyKdialog : Script where
  lines := [{ words := ["kdialog"], outcome := .finished true [] [] }]
  files := Files.empty.put "/bin/kdialog" (.file .empty)
  directory := "/bin"

/-- A message box is not run just when the window cannot be opened, and that it is run is not to
    say that it is shown: it is run too when the program for windows was started, but did not take
    the text; and without this program nothing is shown of a text that no message box can be
    given. -/
theorem boxed_of_unread :
    ((({} : Desktop).showCopyable 1 "Info" "a & b").log (fun _ u => (.unread, u)) ()).map (·.1) =
        [window "Info" "a & b", ({} : Desktop).messageBox "Info" "a &amp; b"] ∧
      onlyKdialog.refusal? "zenity" = some .notFound ∧
      onlyKdialog.refusal? "kdialog" = none ∧
      ((({ dialog := .kdialog } : Desktop).showCopyable 1 "Info" ['\x00']).exec
        Script.run onlyKdialog).2.record = [] := by
  refine ⟨by decide +kernel, by decide +kernel, by decide +kernel, by decide +kernel⟩

end Desktop

end VpnTray
