import VpnTray.Client.Basic
import VpnTray.Config.Basic

/-!
# The desktop

The tray speaks to the user through programs of the desktop: notifications, message
boxes, a picker, and a window with a text that can be copied to the clipboard. A
program that is not there is passed over.
-/

namespace VpnTray

open Text

/-- The program that shows message boxes: one of the two that show them in windows. Message boxes
    in a terminal, by the program `dialog` or on standard output, are left out. -/
inductive Dialog
  | zenity
  | kdialog
deriving DecidableEq, Repr

/-- The desktop: whether notifications are wanted and how long they are shown, and what shows
    message boxes. -/
structure Desktop where
  notifications : Bool := true
  timeoutMs : UInt32 := 5000
  dialog : Dialog := .zenity
deriving DecidableEq, Repr

/-- A text in which the characters with a meaning in markup are replaced, one after the
    other, by their names. -/
def escapeMarkup (text : Text) : Text :=
  replace '>' "&gt;" (replace '<' "&lt;" (replace '&' "&amp;" text))

/-- The button of the window with a text. -/
def copyButton : Text := "Copy to Clipboard"

/-- The window was closed by its button. -/
def isCopyRequest (output : Text) : Bool := trim output = copyButton

/-- The row that was picked: what was printed, without the line ends at its end. -/
def choice? (output : Text) : Option Text :=
  let row := dropTail (fun c => c == '\r' || c == '\n') output
  if row.isEmpty then none else some row

/-- An address with a scheme, which is `https` if there is none. -/
def normalizeUrl (url : Text) : Text :=
  if startsWith "http://" url || startsWith "https://" url then url else "https://" ++ url

/-- The programs that put a text on the clipboard, in the order of trying. -/
def clipboardTools : List (Text × List Text) := [
  ("wl-copy", []),
  ("xclip", ["-selection", "clipboard"]),
  ("xsel", ["--clipboard", "--input"])]

/-- Gives a text to the first of some programs that takes all of it and ends with success, and
    says whether one does. -/
def pipeToFirst (text : Text) : List (Text × List Text) → Shell Bool
  | [] => return false
  | (program, args) :: others => do
    let outcome ← Shell.call program args text
    if outcome.succeeded then return true
    pipeToFirst text others

/-- Puts a text on the clipboard. -/
def copyToClipboard (text : Text) : Attempt Unit :=
  ExceptT.mk do
    if ← pipeToFirst text clipboardTools then return .ok ()
    else return .error (.command .noClipboardTool)

namespace Desktop

variable (desktop : Desktop)

/-- The desktop as it is configured. -/
def ofConfig (config : Config) (dialog : Dialog) : Desktop :=
  { notifications := config.notifications
    timeoutMs := config.notificationTimeoutMs
    dialog }

/-- Shows a notification, if notifications are wanted. -/
def notify (title body : Text) : Shell Unit := do
  if desktop.notifications then
    discard <| Shell.call "notify-send"
      ["-a", "Twingate Tray", "-t", decimal desktop.timeoutMs.toNat, title, body]

/-- Shows a message box. -/
def showMessage (title text : Text) : Shell Unit :=
  match desktop.dialog with
  | .zenity =>
    discard <| Shell.call "zenity" ["--title", title, "--info", "--text", text]
  | .kdialog => discard <| Shell.call "kdialog" ["--title", title, "--msgbox", text]

/-- Lets the user pick one of some rows. -/
def choose (title text column : Text) (options : List Text) : Shell (Option Text) := do
  let outcome ← Shell.call "zenity" <|
    (["--list", "--title=" ++ title, "--text=" ++ text, "--column=" ++ column,
      "--width=600", "--height=400"] : List Text) ++ options
  return outcome.out?.bind choice?

/-- Opens the window with a text. -/
def openWindow (title text : Text) : Shell Outcome :=
  Shell.call "zenity"
    ["--text-info", "--title=" ++ title, "--width=550", "--height=500", "--font=monospace",
      "--ok-label=OK", "--extra-button=" ++ copyButton] text

/-- Copies a text, and tells the user. -/
def copy (text : Text) : Shell Unit := do
  match ← (copyToClipboard text).run with
  | .ok () => desktop.notify "Copied" "Connection info copied to clipboard"
  | .error cause => desktop.notify "Copy Failed" ("Failed to copy: " ++ cause.message)

/-- Shows a text in a window, and says whether it is done with. After a copy the window is to be
    shown again; if the window has not taken the text, a message box shows it. -/
def showOnce (title text : Text) : Shell Bool := do
  match ← openWindow title text with
  | .finished _ out _ =>
    if isCopyRequest out then
      desktop.copy text
      return false
    return true
  | .refused _ | .unread =>
    desktop.showMessage title (escapeMarkup text)
    return true

/-- Shows a text that the user can copy, for as long as the user does, and up to `limit` times. The
    result says whether the user was done with it by then. -/
def showCopyable (limit : Nat) (title text : Text) : Shell Bool :=
  Shell.turns (desktop.showOnce title text) limit

end Desktop

/-- Shows an address in the browser. -/
def openUrl (url : Text) : Attempt Unit := do
  match ← (Shell.call "xdg-open" [normalizeUrl url] : Shell _) with
  | .refused cause => throw (.io cause)
  | .unread | .finished .. => return

end VpnTray
