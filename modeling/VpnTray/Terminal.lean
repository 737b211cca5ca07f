import VpnTray.Actions
import VpnTray.CommandLine
import VpnTray.Config.Load

/-!
# The program for the terminal

A small program asks the client for its status, or has it connect or disconnect, and
prints how that went. It uses the configuration of the tray.
-/

namespace VpnTray

open Text

/-- How a program ended: its code, and what it printed. -/
structure Exit where
  code : Nat
  out : Text := []
  err : Text := []
deriving DecidableEq, Repr

namespace Exit

/-- The end of a program whose arguments were wrong. -/
def wrongArguments : Exit := { code := 2 }

/-- The end of a program that was asked for its version. -/
def ofVersion (program : Text) : Exit := { code := 0, out := program ++ " " ++ version ++ "\n" }

end Exit

namespace TerminalCommand

/-- Does what was asked for, and gives what is printed. -/
def run (client : Client) : TerminalCommand → Attempt Text
  | .status => return if ← client.checkStatus then "connected\n" else "disconnected\n"
  | .connect => do
    client.connect
    return "Connection initiated\n"
  | .disconnect => do
    client.disconnect
    return "Disconnection initiated\n"

end TerminalCommand

/-- The end of a program that printed a text, or failed. -/
def Exit.ofOutcome : Except Error Text → Exit
  | .ok out => { code := 0, out }
  | .error cause => { code := 1, err := cause.message ++ "\n" }

/-- Runs the program for the terminal with some arguments and the configuration at a path. -/
def terminal (files : Files) (configPath : Path) (arguments : List Text) : Shell Exit :=
  match readTerminalArguments arguments with
  | .wrong => return .wrongArguments
  | .version => return .ofVersion "twingate_tray_cli"
  | .run command =>
    match Config.load files configPath with
    | .error cause => return .ofOutcome (.error cause)
    | .ok config => return .ofOutcome (← (command.run ⟨config.client⟩).run)

end VpnTray
