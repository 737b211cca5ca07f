import VpnTray.Terminal

/-!
# The command

The program for the terminal, as a command. It reads the configuration of the user
from its file. The programs that it needs are run by whoever runs this one: each run
is asked for in a line on standard output, the words separated by tabs, and the
outcome is read as a line from standard input, which is `missing`, `refused`, or `ok`
or `failed` with a space and what the program printed.
-/

namespace VpnTray

open Text

/-- The line by which a run is asked for. -/
def Run.request (r : Run) : String :=
  .ofList (['\t'].intercalate (("run" : Text) :: r.program :: r.args))

/-- The outcome in a line. -/
def Outcome.ofLine (line : Text) : Outcome :=
  if line = "missing".toList then .refused .notFound
  else if line = "refused".toList then .refused .permissionDenied
  else
    match after? "ok " line with
    | some printed => .finished true printed []
    | none => .finished false ((after? "failed " line).getD line) []

/-- Asks for a run, and reads its outcome. -/
def ask (r : Run) : IO Outcome := do
  let stdout ← IO.getStdout
  stdout.putStrLn r.request
  stdout.flush
  let line ← (← IO.getStdin).getLine
  return .ofLine (dropTail (fun c => c == '\r' || c == '\n') line.toList)

/-- Does some work, asking for each run. -/
def Shell.perform {α : Type} : Shell α → IO α
  | .done a => return a
  | .run r next => do (next (← ask r)).perform

/-- The file at a path, as far as it can be read. -/
def readFile (path : Path) : IO Files := do
  try
    let content ← IO.FS.readBinFile (String.ofList path)
    return Files.empty.put path (.file content)
  catch
    | .noFileOrDirectory .. => return .empty
    | .permissionDenied .. => return Files.empty.put path (.file .empty) { read := false }
    | _ => return Files.empty.put path .directory

/-- The variables that say where files belong. -/
def environment : IO Environment := do
  let get (name : String) : IO (Option Path) := return (← IO.getEnv name).map String.toList
  return { home := ← get "HOME"
           configHome := ← get "XDG_CONFIG_HOME"
           runtimeDir := ← get "XDG_RUNTIME_DIR"
           tempDir := ← get "TMPDIR" }

end VpnTray

open VpnTray in
/-- The program for the terminal. -/
def main (arguments : List String) : IO UInt32 := do
  let path := (← environment).configPath
  let ended ← (terminal (← readFile path) path (arguments.map String.toList)).perform
  (← IO.getStdout).putStr (.ofList ended.out)
  (← IO.getStderr).putStr (.ofList ended.err)
  return .ofNat ended.code
