import VpnTray.Text.Decimal
import VpnTray.Text.Lines

/-!
# Command lines

There are two programs: the tray itself, with two options, and a small one for the
terminal, with three subcommands. Both tell their version when they are asked to.
Arguments are taken from the left, and the first fault or request ends the reading: an
option must have a value that it admits, and may be given once.

* `TrayOptions.read`: the arguments of the tray;
* `readTerminalArguments`: the arguments of the program for the terminal.
-/

namespace VpnTray

open Text

/-- What some arguments mean: they are wrong, they ask for the version, or they say what
    is to be run. -/
inductive Reading (α : Type)
  | wrong
  | version
  | run (a : α)
deriving DecidableEq, Repr

/-- The argument asks for the version. -/
def asksVersion (argument : Text) : Bool :=
  argument = "--version".toList || startsWith "-V" argument

/-! ## The tray -/

/-- The options of the tray. -/
structure TrayOptions where
  refreshInterval : Option UInt64 := none
  notifications : Option Bool := none
deriving DecidableEq, Repr

/-- An option of the tray. -/
inductive TrayOption
  | refreshInterval
  | notifications
deriving DecidableEq, Repr

/-- An option as it is written. -/
def TrayOption.flag : TrayOption → String
  | .refreshInterval => "--refresh_interval"
  | .notifications => "--notifications"

/-- An interval: a number of 64 bits, and not zero. -/
def interval? (value : Text) : Option UInt64 :=
  ((readBelow? UInt64.size value).filter (0 < ·)).map .ofNat

/-- A truth value. -/
def bool? (value : Text) : Option Bool :=
  if value = "true".toList then some true
  else if value = "false".toList then some false
  else none

namespace TrayOptions

/-- The options with one more, unless it is there already or its value is not admitted. -/
def set? (options : TrayOptions) (value : Text) : TrayOption → Option TrayOptions
  | .refreshInterval => do
    guard options.refreshInterval.isNone
    return { options with refreshInterval := some (← interval? value) }
  | .notifications => do
    guard options.notifications.isNone
    return { options with notifications := some (← bool? value) }

/-- The option that an argument begins, and the value in the same argument, if there is one. -/
def optionOf? (argument : Text) : Option (TrayOption × Option Text) :=
  [TrayOption.refreshInterval, .notifications].findSome? fun option =>
    match after? option.flag argument with
    | some [] => some (option, none)
    | some ('=' :: value) => some (option, some value)
    | _ => none

/-- Reads the arguments of the tray, after some options. -/
def read (options : TrayOptions) : List Text → Reading TrayOptions
  | [] => .run options
  | argument :: rest =>
    if asksVersion argument then .version
    else if argument = "--".toList then if rest.isEmpty then .run options else .wrong
    else
      match optionOf? argument, rest with
      | some (option, some value), rest =>
        match options.set? value option with
        | none => .wrong
        | some options => read options rest
      | some (option, none), value :: rest =>
        match options.set? value option with
        | none => .wrong
        | some options => read options rest
      | _, _ => .wrong

end TrayOptions

/-! ## The terminal -/

/-- What can be asked for in the terminal. -/
inductive TerminalCommand
  | status
  | connect
  | disconnect
deriving DecidableEq, Repr

/-- The subcommand with a name. -/
def TerminalCommand.ofName? (name : Text) : Option TerminalCommand :=
  if name = "status".toList then some .status
  else if name = "connect".toList then some .connect
  else if name = "disconnect".toList then some .disconnect
  else none

/-- Reads the arguments of the program for the terminal: a subcommand, and nothing behind it. -/
def readTerminalArguments : List Text → Reading TerminalCommand
  | [] => .wrong
  | argument :: rest =>
    if asksVersion argument then .version
    else
      match TerminalCommand.ofName? argument with
      | none => .wrong
      | some command => if rest.isEmpty || rest = ["--".toList] then .run command else .wrong

end VpnTray
