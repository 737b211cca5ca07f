import VpnTray.Json.Fault
import VpnTray.Path
import VpnTray.Text.Blank

/-!
# Errors

What can go wrong, by its cause. `Error.message` is the only place where the
texts are made that users see.
-/

namespace VpnTray

open VpnTray.Text

/-- Why the system refused to read or write a file, to start a program, or to hand it all
    that it is given to read. Neither a path nor a word given to a program can hold the
    character with the number zero, and the length of both is limited. -/
inductive IoError
  | notFound
  | wordTooLong
  | permissionDenied
  | fileExists
  | notADirectory
  | isADirectory
  | brokenPipe
  | nameTooLong
  | invalidUtf8
  | zeroInPath
  | zeroInWord
deriving DecidableEq, Repr

/-- Why a command did not do what it was run for. -/
inductive CommandError
  | failed (program : Text) (args : List Text) (output : Text)
  | notElevated (program : Text) (args : List Text)
  | noClipboardTool
deriving DecidableEq, Repr

/-- Why the tray could not do something. -/
inductive Error
  | unreachableBus
  | lostBus
  | invalidObjectPath (path : String)
  | takenObjectPath (path : String)
  | io (cause : IoError)
  | config (path : Path) (fault : Json.Fault)
  | zeroInterval
  | alreadyRunning (pid : UInt32)
  | command (cause : CommandError)

/-- The text of a system error, with its number if it has one. -/
def IoError.message : IoError → Text
  | .notFound => "No such file or directory (os error 2)"
  | .wordTooLong => "Argument list too long (os error 7)"
  | .permissionDenied => "Permission denied (os error 13)"
  | .fileExists => "File exists (os error 17)"
  | .notADirectory => "Not a directory (os error 20)"
  | .isADirectory => "Is a directory (os error 21)"
  | .brokenPipe => "Broken pipe (os error 32)"
  | .nameTooLong => "File name too long (os error 36)"
  | .invalidUtf8 => "stream did not contain valid UTF-8"
  | .zeroInPath => "file name contained an unexpected NUL byte"
  | .zeroInWord => "nul byte found in provided data"

/-- The words of a command, separated by spaces. -/
def commandLine (args : List Text) : Text := [' '].intercalate args

/-- The text of a failed command. -/
def CommandError.message : CommandError → Text
  | .failed program args output =>
    program ++ [' '] ++ commandLine args ++ " failed: " ++ trim output
  | .notElevated program args => program ++ [' '] ++ commandLine args ++ " failed"
  | .noClipboardTool => "no clipboard tool available"

/-- The text of an error. -/
def Error.message : Error → Text
  | .unreachableBus => "D-Bus error: session bus not reachable"
  | .lostBus => "D-Bus error: session bus connection lost"
  | .invalidObjectPath path =>
    "Failed to export object: invalid object path " ++ path.toList ++ ": Invalid object path"
  | .takenObjectPath path =>
    "Failed to export object: " ++ path.toList ++ " is already exported"
  | .io cause => "I/O error: " ++ cause.message
  | .config path fault => "Invalid configuration: " ++ path ++ ": " ++ fault.message
  | .zeroInterval => "Invalid configuration: poll_interval_ms must be greater than zero"
  | .alreadyRunning pid =>
    "twingate_tray is already running (pid " ++ decimal pid.toNat ++ ")."
  | .command cause => cause.message

end VpnTray
