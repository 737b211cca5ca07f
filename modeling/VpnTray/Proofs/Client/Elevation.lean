import VpnTray.ConnectionInfo.Basic
import VpnTray.Proofs.Shell.Log

/-!
# Elevation

A program that changes the system is run by the first elevator, and by the second one if that
did not help. So there are two such runs at most, the program and its arguments are the same
in both, and none comes after one that was a success (`Elevation`, `elevation_of_ends`).

All else that is run on behalf of the client is run by the user (`Unelevated`): the client
itself, or a program that is no elevator. The name of the client is for the user to choose,
who might choose that of an elevator.
-/

namespace VpnTray

open Shell

/-- An elevator that is to run a program. -/
def elevatedRun (elevator program : Text) (args : List Text) : Run :=
  { program := elevator, args := program :: args }

/-- The log of an elevation, and whether it was a success: the first elevator was enough, or it
    was not, and then the second one decides. -/
inductive Elevation (program : Text) (args : List Text) : Log → Bool → Prop
  | first {outcome : Outcome} (h : outcome.succeeded = true) :
    Elevation program args [(elevatedRun "pkexec" program args, outcome)] true
  | second {outcome last : Outcome} (h : outcome.succeeded = false) :
    Elevation program args
      [(elevatedRun "pkexec" program args, outcome), (elevatedRun "sudo" program args, last)]
      last.succeeded

/-- A run by the user: of the client itself, or of a program that is no elevator. -/
def Unelevated (client : Client) (r : Run) : Prop :=
  r.program = client.program ∨ r.program ∉ elevators

variable {program : Text} {args : List Text} {log : Log} {client : Client}

/-! ## Elevators -/

theorem ends_elevatedBy_cons_iff {elevator : Text} {others : List Text}
    {result : Except Error Unit} :
    Ends (elevatedBy program args (elevator :: others)).run log result ↔
      ∃ outcome rest, log = (elevatedRun elevator program args, outcome) :: rest ∧
        if outcome.succeeded then rest = [] ∧ result = .ok ()
        else Ends (elevatedBy program args others).run rest result := by
  have hrun : (elevatedBy program args (elevator :: others)).run =
      Shell.call elevator (program :: args) >>= fun outcome =>
        if outcome.succeeded then pure (.ok ()) else (elevatedBy program args others).run := by
    rw [elevatedBy, ExceptT.run_bind]
    exact congrArg (Shell.run _) (funext fun _ => apply_ite ExceptT.run _ _ _)
  rw [hrun, ends_call_bind_iff]
  refine exists_congr fun outcome => exists_congr fun rest => and_congr_right fun _ => ?_
  split
  · exact ends_pure_iff
  · rfl

/-- Running a program with the right to change the system leaves the log of an elevation, and
    fails if that is not a success. -/
theorem elevation_of_ends {result : Except Error Unit}
    (h : Ends (elevated program args).run log result) :
    ∃ done, Elevation program args log done ∧
      result = if done then .ok () else .error (.command (.notElevated program args)) := by
  rw [elevated, elevators] at h
  obtain ⟨outcome, rest, rfl, hrest⟩ := ends_elevatedBy_cons_iff.1 h
  cases hfirst : outcome.succeeded with
  | true =>
    rw [if_pos hfirst] at hrest
    obtain ⟨rfl, rfl⟩ := hrest
    exact ⟨true, .first hfirst, rfl⟩
  | false =>
    rw [if_neg (Bool.eq_false_iff.1 hfirst)] at hrest
    obtain ⟨last, none, rfl, hnone⟩ := ends_elevatedBy_cons_iff.1 hrest
    -- There is no third elevator, so that whatever follows the second one is nothing.
    obtain ⟨rfl, rfl⟩ : none = [] ∧ result = if last.succeeded then .ok ()
        else .error (.command (.notElevated program args)) := by
      by_cases hlast : last.succeeded = true
      · rwa [if_pos hlast] at hnone ⊢
      · rw [if_neg hlast] at hnone ⊢
        exact ends_pure_iff.1 hnone
    exact ⟨last.succeeded, .second hfirst, rfl⟩

/-! ## What is run by the user -/

/-- The client has printed something to be read only if it ran with success. -/
theorem Outcome.exists_of_text {outcome : Outcome} {text : Text}
    (h : outcome.text program args = .ok text) :
    ∃ out err, outcome = .finished true out err ∧ text = out ++ err := by
  match outcome with
  | .finished true out err => exact ⟨out, err, rfl, (Except.ok.inj h).symm⟩
  | .finished false _ _ | .unread | .refused _ => cases h

theorem ends_output_iff {result : Except Error Text} :
    Ends (client.output args).run log result ↔
      ∃ outcome, log = [({ program := client.program, args }, outcome)] ∧
        result = outcome.text client.program args := by
  have hrun : (client.output args).run =
      Outcome.text client.program args <$> Shell.call client.program args := rfl
  rw [hrun, ends_map_iff]
  exact exists_congr fun outcome => and_congr_left fun _ => ends_call_iff

/-- What is read from the output of the client, unless the client fails. -/
theorem ends_output_pure_iff {α : Type} {f : Text → α} {result : Except Error α} :
    Ends (client.output args >>= fun text => pure (f text)).run log result ↔
      ∃ outcome, log = [({ program := client.program, args }, outcome)] ∧
        result = (outcome.text client.program args).map f := by
  rw [ends_attempt_bind_iff]
  constructor
  · rintro (⟨first, text, rest, rfl, hfirst, hrest⟩ | ⟨cause, hfailed, rfl⟩)
    · obtain ⟨outcome, rfl, htext⟩ := ends_output_iff.1 hfirst
      obtain ⟨rfl, rfl⟩ := ends_pure_iff.1 hrest
      exact ⟨outcome, rfl, by rw [← htext]; rfl⟩
    · obtain ⟨outcome, rfl, htext⟩ := ends_output_iff.1 hfailed
      exact ⟨outcome, rfl, by rw [← htext]; rfl⟩
  · rintro ⟨outcome, rfl, rfl⟩
    cases htext : outcome.text client.program args with
    | ok text =>
      exact .inl ⟨_, text, [], rfl, ends_output_iff.2 ⟨outcome, rfl, htext.symm⟩, .done _⟩
    | error cause =>
      exact .inr ⟨cause, ends_output_iff.2 ⟨outcome, rfl, htext.symm⟩, rfl⟩

/-- The client is run first, and then the work is done for which its output was read. -/
theorem ends_output_bind {α β : Type} {f : Text → α} {use : Except Error α → Shell β} {b : β}
    (h : Ends ((client.output args >>= fun text => pure (f text)).run >>= use) log b) :
    ∃ outcome rest, log = ({ program := client.program, args }, outcome) :: rest ∧
      ((∃ text, outcome.text client.program args = .ok text ∧ Ends (use (.ok (f text))) rest b) ∨
      ∃ cause, outcome.text client.program args = .error cause ∧
        Ends (use (.error cause)) rest b) := by
  obtain ⟨first, result, rest, rfl, hfirst, hrest⟩ := ends_bind_iff.1 h
  obtain ⟨outcome, rfl, rfl⟩ := ends_output_pure_iff.1 hfirst
  refine ⟨outcome, rest, rfl, ?_⟩
  cases htext : outcome.text client.program args with
  | ok text =>
    rw [htext] at hrest
    exact .inl ⟨text, rfl, hrest⟩
  | error cause =>
    rw [htext] at hrest
    exact .inr ⟨cause, rfl, hrest⟩

theorem only_output : Only (Unelevated client) (client.output args).run :=
  (only_call (.inl rfl)).bind fun _ => only_pure _ _

theorem only_account : Only (Unelevated client) client.account.run :=
  only_output.attempt_bind fun _ => only_pure _ _

theorem only_resources : Only (Unelevated client) client.resources.run :=
  only_output.attempt_bind fun _ => only_pure _ _

theorem only_authenticate (resource : Text) :
    Only (Unelevated client) (client.authenticate resource).run :=
  only_output.attempt_bind fun _ => only_pure _ _

namespace ConnectionInfo

theorem only_tool (h : program ∉ elevators) : Only (Unelevated client) (tool program args) :=
  (only_call (.inr h)).bind fun _ => only_pure _ _

theorem only_optional {α : Type} {work : Attempt α} (h : Only (Unelevated client) work.run) :
    Only (Unelevated client) (optional work) :=
  h.bind fun _ => only_pure _ _

theorem only_addFrom {α : Type} {work : Shell (Option α)}
    (h : Only (Unelevated client) work) (use : α → ConnectionInfo → ConnectionInfo)
    (info : ConnectionInfo) : Only (Unelevated client) (addFrom work use info) :=
  h.bind fun _ => only_pure _ _

theorem only_gather (now : Int) : Only (Unelevated client) (gather client now) := by
  have hip : ("ip" : Text) ∉ elevators := by decide
  have hresolvectl : ("resolvectl" : Text) ∉ elevators := by decide
  have hsystemctl : ("systemctl" : Text) ∉ elevators := by decide
  refine (only_addFrom (only_optional only_output) _ _).bind fun _ => ?_
  refine (only_addFrom (only_optional only_account) _ _).bind fun _ => ?_
  refine (only_addFrom (only_optional only_output) _ _).bind fun _ => ?_
  refine (only_addFrom (only_tool hip) _ _).bind fun _ => ?_
  refine (only_addFrom (only_tool hresolvectl) _ _).bind fun _ => ?_
  refine (only_addFrom (only_tool hip) _ _).bind fun _ => ?_
  refine (only_addFrom (only_optional only_resources) _ _).bind fun _ => ?_
  exact only_addFrom (only_tool hsystemctl) _ _

end ConnectionInfo

end VpnTray
