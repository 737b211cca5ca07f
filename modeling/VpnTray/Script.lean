import VpnTray.Files
import VpnTray.Shell

/-!
# Scripted machines

To see what the tray does without the programs that it runs, a machine can follow a
script: it says which programs there are, and how each run of them ends. A run ends
as the first line says that its words begin with, as long as that line has uses left;
a run that no line is for fails and prints nothing. The machine keeps a record of the
programs that it has run.

* `Script.refusal?`: why a program cannot be started;
* `Script.run`: how a run ends, and the script after it.
-/

namespace VpnTray

/-- A line of a script: the words that a run begins with, how the run ends, and how often
    the line can still be used, if that is limited. -/
structure ScriptLine where
  words : List Text
  outcome : Outcome
  uses : Option Nat := none
deriving Repr

/-- A script: its lines, the files of the machine, the directory of its programs, the
    names of those that must not be started, and what has been run, last first. -/
structure Script where
  lines : List ScriptLine := []
  files : Files := .empty
  directory : Path := []
  blocked : List Text := []
  record : List Run := []

/-- The name of a program without the directories that it lies in. -/
def baseName (program : Text) : Text := (program.reverse.takeWhile (· ≠ '/')).reverse

/-- The words of a run: the name of its program, and the arguments. -/
def Run.words (r : Run) : List Text := baseName r.program :: r.args

namespace Script

/-- A line that can be used once less. -/
def spend (line : ScriptLine) : ScriptLine := { line with uses := line.uses.map (· - 1) }

/-- How a run with some words ends, and the lines after it. -/
def follow (words : List Text) : List ScriptLine → Outcome × List ScriptLine
  | [] => (.finished false [] [], [])
  | line :: lines =>
    if line.words.isPrefixOf words && line.uses ≠ some 0 then (line.outcome, spend line :: lines)
    else
      let (outcome, lines') := follow words lines
      (outcome, line :: lines')

/-- The path of a program. A name without a slash is looked up among the programs. -/
def locate (script : Script) (program : Text) : Path :=
  if '/' ∈ program then program else script.directory ++ '/' :: program

/-- Why a program cannot be started, if it cannot. -/
def refusal? (script : Script) (program : Text) : Option IoError :=
  if program = [] then some .notFound
  else
    match script.files.lookup (script.locate program) with
    | .error cause => some cause
    | .ok .directory => some .permissionDenied
    | .ok (.file _) =>
      if script.blocked.any (· = baseName program) then some .permissionDenied else none

/-- The greatest length of a word given to a program, in bytes. -/
def maxWord : Nat := 131071

/-- How a run ends, and the script after it. -/
def run (r : Run) (script : Script) : Outcome × Script :=
  if (r.program :: r.args).any (fun word => '\x00' ∈ word) then (.refused .zeroInWord, script)
  else
    match script.refusal? r.program with
    | some cause => (.refused cause, script)
    | none =>
      if r.args.any (maxWord < ·.byteSize) then (.refused .wordTooLong, script)
      else
        let (outcome, lines) := follow r.words script.lines
        (outcome, { script with lines, record := r :: script.record })

end Script

end VpnTray
