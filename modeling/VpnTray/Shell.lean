import VpnTray.Error
import VpnTray.Text.Utf8

/-!
# Running programs

The tray does its work by running other programs: the client, the tools that ask for
the right to change the system, and those of the desktop. `Shell α` is such work, as
far as it depends on the programs: it runs one program after the other, each
depending on how those before it ended, and gives an `α` in the end.

* `Shell.run`: one program;
* `Shell.turns`: the same work again and again;
* `Shell.exec`: some work done on a machine, which says how each program ends.
-/

namespace VpnTray

/-- A program to be run: its name, its arguments, and what it gets to read. -/
structure Run where
  program : Text
  args : List Text
  stdin : Text := []
deriving DecidableEq, Repr

/-- How a program ended. -/
inductive Outcome
  /-- It could not be started. -/
  | refused (cause : IoError)
  /-- It was started, but did not take all that it was given to read. It is not waited for
      then, so that nothing is known of how it ended. -/
  | unread
  /-- It ran, with or without success, and printed two texts. -/
  | finished (success : Bool) (out err : Text)
deriving DecidableEq, Repr

/-- The outcome of a program that printed some bytes. Bytes that are no text are shown as
    replacement characters. -/
def Outcome.ofBytes (success : Bool) (out err : ByteArray) : Outcome :=
  .finished success (Text.Utf8.decodeLossy out) (Text.Utf8.decodeLossy err)

/-- The program ran with success. -/
def Outcome.succeeded : Outcome → Bool
  | .finished success _ _ => success
  | _ => false

/-- What the program printed, if it ran with success. -/
def Outcome.out? : Outcome → Option Text
  | .finished true out _ => some out
  | _ => none

/-- Work that is done by running programs. -/
inductive Shell (α : Type) where
  | done (a : α)
  | run (r : Run) (next : Outcome → Shell α)

namespace Shell

variable {α β σ : Type}

/-- First one piece of work, then another that depends on its result. -/
def bind : Shell α → (α → Shell β) → Shell β
  | done a, f => f a
  | run r next, f => run r fun outcome => (next outcome).bind f

instance : Monad Shell where
  pure := done
  bind := bind

/-- Runs a program. -/
def call (program : Text) (args : List Text) (stdin : Text := []) : Shell Outcome :=
  run { program, args, stdin } done

/-- Takes one turn after the other until one says that it was the last. No more than `limit`
    turns are taken, and the result says whether the last one was among them. A loop that
    goes on for as long as it likes has no such limit: what is true of it is what is true
    whatever the limit is. -/
def turns (turn : Shell Bool) (limit : Nat) : Shell Bool :=
  match limit with
  | 0 => done false
  | limit + 1 => turn.bind fun last => if last then done true else turns turn limit

/-- Does some work on a machine, which says how each program ends, depending on a state
    of its own. -/
def exec (machine : Run → σ → Outcome × σ) : Shell α → σ → α × σ
  | done a, s => (a, s)
  | run r next, s =>
    let (outcome, s) := machine r s
    (next outcome).exec machine s

@[simp] theorem exec_pure (machine : Run → σ → Outcome × σ) (a : α) (s : σ) :
    (pure a : Shell α).exec machine s = (a, s) := rfl

@[simp] theorem exec_bind (machine : Run → σ → Outcome × σ) (work : Shell α) (f : α → Shell β)
    (s : σ) :
    (work >>= f).exec machine s =
      (f (work.exec machine s).1).exec machine (work.exec machine s).2 := by
  induction work generalizing s with
  | done => rfl
  | run r next ih => exact ih _ _

@[simp] theorem exec_call (machine : Run → σ → Outcome × σ) (program : Text) (args : List Text)
    (stdin : Text) (s : σ) :
    (call program args stdin).exec machine s = machine { program, args, stdin } s := rfl

theorem bind_done (work : Shell α) : work.bind done = work := by
  induction work with
  | done => rfl
  | run r next ih => simp [bind, ih]

theorem bind_assoc {γ : Type} (work : Shell α) (f : α → Shell β) (g : β → Shell γ) :
    (work.bind f).bind g = work.bind fun a => (f a).bind g := by
  induction work with
  | done => rfl
  | run r next ih => simp [bind, ih]

instance : LawfulMonad Shell :=
  LawfulMonad.mk' _ bind_done (fun _ _ => rfl) bind_assoc

end Shell

end VpnTray
