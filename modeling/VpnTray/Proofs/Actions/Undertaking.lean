import VpnTray.Actions
import VpnTray.Proofs.Client.Elevation
import VpnTray.Proofs.Desktop

/-!
# Undertakings

Several commands change the system, and go the same way: a program is run with the right to
do so; after a success the client may be run for something more, by the user; and the user is
told how it went, though not of every success. An *undertaking* is such a way to go.

* `Undertaking.aftermath`: what is run once the elevation has ended. It depends on whether
  the elevation was a success, and on nothing else;
* `Undertaken`: the log of an undertaking, from its elevation to its end;
* `undertaken_of_ends`: no other log is left.
-/

namespace VpnTray

open Text Shell

variable {log : Log}

/-- A program to be run with the right to change the system, what the client is run with after
    a success, and what the user is told of a success or a failure: a title and a text, or a
    title and the beginning of a text. -/
structure Undertaking where
  program : Text
  args : List Text
  followUp : Option (List Text) := none
  success : Option (Text × Text) := none
  failure : Text × Text

namespace Undertaking

/-- The part of an undertaking that may fail. -/
def work (undertaking : Undertaking) (client : Client) : Attempt Unit :=
  match undertaking.followUp with
  | none => elevated undertaking.program undertaking.args
  | some args => do
    elevated undertaking.program undertaking.args
    client.runAnyway args

/-- What the client is run for after an elevation. -/
def followUpRuns (undertaking : Undertaking) (client : Client) (done : Bool) : List Run :=
  if done then undertaking.followUp.toList.map fun args => { program := client.program, args }
  else []

/-- Why an undertaking fails, which is the same whatever the elevators have said. -/
def cause (undertaking : Undertaking) : Error :=
  .command (.notElevated undertaking.program undertaking.args)

/-- How the user is told of an undertaking. -/
def report (undertaking : Undertaking) (desktop : Desktop) (done : Bool) : List Run :=
  if done then
    undertaking.success.toList.flatMap fun success => desktop.notification success.1 success.2
  else
    desktop.notification undertaking.failure.1
      (undertaking.failure.2 ++ ": " ++ undertaking.cause.message)

/-- What is run once the elevation of an undertaking has ended. -/
def aftermath (undertaking : Undertaking) (actions : Actions) (done : Bool) : List Run :=
  undertaking.followUpRuns actions.client done ++ undertaking.report actions.desktop done

end Undertaking

/-- A log is that of an undertaking. -/
def Undertaken (actions : Actions) (undertaking : Undertaking) (log : Log) : Prop :=
  ∃ attempts after done, log = attempts ++ after ∧
    Elevation undertaking.program undertaking.args attempts done ∧
    after.map (·.1) = undertaking.aftermath actions done

/-- An undertaking begins with an elevator. -/
theorem Undertaken.head?_eq {actions : Actions} {undertaking : Undertaking}
    (h : Undertaken actions undertaking log) :
    (log.map (·.1)).head? = some (elevatedRun "pkexec" undertaking.program undertaking.args) := by
  obtain ⟨attempts, after, done, rfl, helevation, -⟩ := h
  cases helevation with
  | first | second => rfl

namespace Actions

variable {actions : Actions} {undertaking : Undertaking} {u : Unit}

/-- Goes about an undertaking, and tells the user how it went. -/
def undertake (actions : Actions) (undertaking : Undertaking) : Shell Unit :=
  actions.report (undertaking.work actions.client) undertaking.success undertaking.failure

theorem runs_of_runAnyway {client : Client} {args : List Text}
    (h : Ends (client.runAnyway args) log u) :
    log.map (·.1) = [{ program := client.program, args }] := by
  obtain ⟨⟨result, h⟩, -⟩ := ends_bind_pure_iff.1 h
  obtain ⟨outcome, rest, rfl, hrest⟩ := ends_call_bind_iff.1 h
  obtain ⟨rfl, -⟩ := ends_pure_iff.1 hrest
  rfl

/-- The work of an undertaking: its elevation, and more after a success. -/
theorem ends_work {client : Client} {result : Except Error Unit}
    (h : Ends (undertaking.work client).run log result) :
    ∃ attempts after done, log = attempts ++ after ∧
      Elevation undertaking.program undertaking.args attempts done ∧
      after.map (·.1) = undertaking.followUpRuns client done ∧
      result = if done then .ok () else .error undertaking.cause := by
  rw [Undertaking.work] at h
  split at h
  · next hfollow =>
    obtain ⟨done, helevation, hresult⟩ := elevation_of_ends h
    refine ⟨log, [], done, (List.append_nil log).symm, helevation, ?_, hresult⟩
    simp [Undertaking.followUpRuns, hfollow]
  · next args hfollow =>
    rcases ends_attempt_bind_iff.1 h with
      ⟨attempts, _, after, rfl, hattempts, hafter⟩ | ⟨cause, hattempts, rfl⟩
    · obtain ⟨done, helevation, hresult⟩ := elevation_of_ends hattempts
      obtain rfl : done = true := by
        cases done with
        | false => cases hresult
        | true => rfl
      obtain ⟨_, hanyway, rfl⟩ := ends_lift_iff.1 hafter
      refine ⟨attempts, after, true, rfl, helevation, ?_, rfl⟩
      rw [runs_of_runAnyway hanyway, Undertaking.followUpRuns, hfollow]
      rfl
    · obtain ⟨done, helevation, hresult⟩ := elevation_of_ends hattempts
      obtain rfl : done = false := by
        cases done with
        | false => rfl
        | true => cases hresult
      exact ⟨log, [], false, (List.append_nil log).symm, helevation, rfl, hresult⟩

/-- Whatever comes of its elevation, an undertaking leaves a log of its own kind. -/
theorem undertaken_of_ends (h : Ends (actions.undertake undertaking) log u) :
    Undertaken actions undertaking log := by
  obtain ⟨first, result, rest, rfl, hwork, hrest⟩ := ends_bind_iff.1 h
  obtain ⟨attempts, after, done, rfl, helevation, hafter, rfl⟩ := ends_work hwork
  have hreport : rest.map (·.1) = undertaking.report actions.desktop done := by
    cases done with
    | false => exact Desktop.runs_of_notify hrest
    | true =>
      rw [Undertaking.report, if_pos rfl]
      cases hsuccess : undertaking.success with
      | none =>
        rw [hsuccess] at hrest
        obtain ⟨rfl, -⟩ := ends_pure_iff.1 hrest
        rfl
      | some success =>
        rw [hsuccess] at hrest
        simpa using Desktop.runs_of_notify hrest
  refine ⟨attempts, after ++ rest, done, List.append_assoc _ _ _, helevation, ?_⟩
  rw [List.map_append, hafter, hreport]
  rfl

end Actions

end VpnTray
