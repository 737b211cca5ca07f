import VpnTray.Files
import VpnTray.Stepped
import VpnTray.Text.Decimal

/-!
# The lock

Only one tray runs at a time: a running tray keeps a lock file with its process
number in it. A lock file whose process is gone, or that holds anything else, is
stale and is replaced; whether a process is there is asked when the file has been
read.

* `Lock.acquire`: takes the lock, unless a live process has it;
* `Lock.release`: gives it back, if it was taken.

Each operation on the file is a step of its own.
-/

namespace VpnTray

open Text

/-- What a process knows about processes: its own number, and which numbers belong to
    a live one. -/
structure Processes where
  own : UInt32
  alive : UInt32 → Bool

/-- A handle on a lock file, and whether the lock has been taken by it. -/
structure Lock where
  path : Path
  held : Bool := false
deriving DecidableEq, Repr

namespace Lock

/-- The process that a lock file names. -/
def owner? (content : Text) : Option UInt32 := (readBelow? UInt32.size (trim content)).map .ofNat

/-- The process is there; no process has the number zero. -/
def runs (processes : Processes) (pid : UInt32) : Bool := pid ≠ 0 && processes.alive pid

/-- The live process that holds the lock file which `content` was read from. -/
def holder? (processes : Processes) (content : Text) : Option UInt32 :=
  (owner? content).filter (runs processes)

/-- What the lock file of a process holds. -/
def content (pid : UInt32) : ByteArray := (String.ofList (decimal pid.toNat ++ ['\n'])).toUTF8

/-- An operation on files that may fail. -/
def attempt (operation : Files → Except IoError Unit × Files) :
    ExceptT Error (Stepped Files) Unit :=
  ExceptT.mk <| Stepped.act fun files =>
    let (outcome, files) := operation files
    (outcome.mapError .io, files)

/-- Takes the lock for the own process. -/
def acquire (processes : Processes) (lock : Lock) : ExceptT Error (Stepped Files) Lock := do
  match ← (Stepped.get (·.read lock.path) : Stepped Files _) with
  | .error _ => pure ()
  | .ok content =>
    match holder? processes content with
    | some pid => throw (.alreadyRunning pid)
    | none => attempt (Files.remove lock.path)
  attempt (Files.makeDirectories lock.path)
  attempt (Files.write lock.path (content processes.own))
  return { lock with held := true }

/-- Gives the lock back. A lock file that is gone already is no fault. -/
def release (lock : Lock) : Stepped Files Lock := do
  if lock.held then
    Stepped.modify fun files => (files.remove lock.path).2
  return { lock with held := false }

end Lock

end VpnTray
