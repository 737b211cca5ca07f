import Mathlib.Data.Bool.Basic
import Mathlib.Data.List.Destutter
import VpnTray.Monitor.Basic
import VpnTray.Proofs.Desktop
import VpnTray.Proofs.Tray.Run

/-!
# Status checks

The monitor takes the results of status checks, one after the other, while nobody else changes
the tray. Two things remember what the check before has shown: the tray shows it, as a fresh
tray shows that there is no connection; and the monitor knows it, unless there was no check
before. So the first check is always a change to the monitor, of which the user is not told, but
it is one to the tray only if there is a connection.

* `shown`: the state of the connection after each check, which is what it has shown;
* `notices_eq`: the user is told of the runs of equal states but the first one, so that what
  the user is told alternates;
* `tellings_fresh`: the notifications that are made, check by check;
* `followed`: what comes of any checks. None of it depends on why a check has failed.
-/

namespace VpnTray

open Shell

variable {ε ε' : Type}

/-! ## Updates of the status -/

namespace Tray

variable {tray : Tray} {now : Instant} {connected : Bool}

theorem after_updateStatus_of_eq (h : tray.state.connected = connected) :
    tray.after (.updateStatus now connected) = tray := by
  rw [after, work_updateStatus, Stepped.run_bind, run_look, if_pos h]
  rfl

theorem connected_after_updateStatus (tray : Tray) (now : Instant) (connected : Bool) :
    (tray.after (.updateStatus now connected)).state.connected = connected := by
  by_cases h : tray.state.connected = connected
  · rw [after_updateStatus_of_eq h, h]
  · have hidle : ¬(Change.connection now connected).Idle tray.state := h
    rw [after, work_updateStatus, Stepped.run_bind, run_look, if_neg h, Change.state_run_work,
      Change.apply_eq, if_neg hidle]
    rfl

/-- The revision is counted up by an update that changes the state of the connection. -/
theorem revision_after_updateStatus (tray : Tray) (now : Instant) (connected : Bool) :
    (tray.after (.updateStatus now connected)).state.revision =
      if tray.state.connected = connected then tray.state.revision
      else tray.state.revision + 1 := by
  split
  · next h => rw [after_updateStatus_of_eq h]
  · next h =>
    refine (next_after (.inl ?_)).revision
    rwa [connected_after_updateStatus]

/-- The signals of an update that changes the state of the connection, and of no other. -/
theorem signals_after_updateStatus (tray : Tray) (now : Instant) (connected : Bool) :
    (tray.after (.updateStatus now connected)).signals = tray.signals.map (· ++
      if tray.state.connected = connected then []
      else [.newIcon, .newToolTip, .layoutUpdated
        (tray.after (.updateStatus now connected)).state.revision Menu.rootId]) := by
  rw [signals_after]
  split
  · next h => rw [after_updateStatus_of_eq h, State.announcement_self]
  · next h =>
    rw [State.announcement_of_ne]
    rwa [connected_after_updateStatus]

end Tray

/-! ## Checks -/

/-- A status check: when its result came, and the result. -/
structure Check (ε : Type) where
  now : Instant
  result : Except ε Bool

/-- The state of the connection that a check has shown: there is a connection if the check says
    so, and there is none if it says anything else or has failed. -/
def Check.connected (check : Check ε) : Bool :=
  match check.result with
  | .ok true => true
  | _ => false

theorem connectionOf_result (check : Check ε) : connectionOf check.result = check.connected := by
  rw [Check.connected]
  match check.result with
  | .ok true | .ok false | .error _ => rfl

theorem Notice.ofConnection_injective : Function.Injective Notice.ofConnection :=
  Bool.injective_iff.2 nofun

theorem Notice.ofConnection_eq (connected : Bool) :
    ofConnection connected = if connected then .connected else .disconnected := by
  cases connected with
  | true | false => rfl

namespace Watched

variable {watched watched' : Watched} {check : Check ε} {checks : List (Check ε)} {i : Nat}

/-- What follows from a check. -/
def observation (watched : Watched) (check : Check ε) : Observation :=
  (watched.observe check.now check.result).1

/-- What is watched after a check. -/
def after (watched : Watched) (check : Check ε) : Watched :=
  (watched.observe check.now check.result).2

/-- What is watched after some checks, one after the other. -/
def afterAll (watched : Watched) (checks : List (Check ε)) : Watched := checks.foldl after watched

/-- What follows from each of some checks, one after the other. -/
def observations (watched : Watched) : List (Check ε) → List Observation
  | [] => []
  | check :: checks => watched.observation check :: (watched.after check).observations checks

theorem observation_eq (watched : Watched) (check : Check ε) :
    watched.observation check = .ofChange watched.previous check.connected := by
  rw [← connectionOf_result]
  rfl

theorem tray_after (watched : Watched) (check : Check ε) :
    (watched.after check).tray = watched.tray.after (.updateStatus check.now check.connected) := by
  rw [← connectionOf_result]
  rfl

theorem previous_after (watched : Watched) (check : Check ε) :
    (watched.after check).previous = some check.connected := by
  rw [← connectionOf_result]
  rfl

theorem connected_after (watched : Watched) (check : Check ε) :
    (watched.after check).tray.state.connected = check.connected := by
  rw [tray_after, Tray.connected_after_updateStatus]

theorem afterAll_take_succ (watched : Watched) (h : checks[i]? = some check) :
    watched.afterAll (checks.take (i + 1)) = (watched.afterAll (checks.take i)).after check := by
  rw [afterAll, List.take_add_one, h, List.foldl_append]
  rfl

theorem length_observations (watched : Watched) (checks : List (Check ε)) :
    (watched.observations checks).length = checks.length := by
  induction checks generalizing watched with
  | nil => rfl
  | cons check checks ih => rw [observations, List.length_cons, ih, List.length_cons]

theorem getElem?_observations (watched : Watched) (h : checks[i]? = some check) :
    (watched.observations checks)[i]? =
      some ((watched.afterAll (checks.take i)).observation check) := by
  induction checks generalizing watched i with
  | nil => cases h
  | cons first checks ih =>
    cases i with
    | zero =>
      obtain rfl := Option.some.inj h
      rfl
    | succ i => exact ih (watched.after first) h

/-! ## What follows from a check -/

theorem changed_ofChange {first : Prop} [Decidable first] (previous connected : Bool) :
    (Observation.ofChange (if first then none else some previous) connected).changed =
      if first ∨ connected ≠ previous then some connected else none := by
  by_cases hfirst : first
  · simp [Observation.ofChange, hfirst]
  · by_cases hsame : previous = connected
    · simp [Observation.ofChange, hfirst, hsame]
    · simp [Observation.ofChange, hfirst, hsame, Ne.symm hsame]

theorem notice_ofChange {first : Prop} [Decidable first] (previous connected : Bool) :
    (Observation.ofChange (if first then none else some previous) connected).notice =
      if ¬first ∧ connected ≠ previous then some (.ofConnection connected) else none := by
  by_cases hfirst : first
  · simp [Observation.ofChange, hfirst]
  · by_cases hsame : previous = connected
    · simp [Observation.ofChange, hfirst, hsame]
    · simp [Observation.ofChange, hfirst, hsame, Ne.symm hsame]

/-! ## What the user is told -/

/-- What the user is told of some checks, in its order. -/
def notices (observations : List Observation) : List Notice := observations.filterMap (·.notice)

theorem notices_cons (watched : Watched) (check : Check ε) (checks : List (Check ε)) :
    notices (watched.observations (check :: checks)) =
      (watched.observation check).notice.toList ++
        notices ((watched.after check).observations checks) := by
  rw [observations, notices, List.filterMap_cons]
  cases (watched.observation check).notice with
  | none => rfl
  | some notice => rfl

/-- After a check, the user is told of each change from then on. -/
theorem notices_of_previous {connected : Bool} (h : watched.previous = some connected)
    (checks : List (Check ε)) :
    .ofConnection connected :: notices (watched.observations checks) =
      ((checks.map Check.connected).destutter' (· ≠ ·) connected).map .ofConnection := by
  induction checks generalizing watched connected with
  | nil => rfl
  | cons check checks ih =>
    have hnext := ih (previous_after watched check)
    rw [notices_cons, observation_eq, h, List.map_cons, Observation.ofChange]
    by_cases hsame : connected = check.connected
    · rw [if_pos (congrArg some hsame), List.destutter'_cons_neg _ (not_not_intro hsame), hsame]
      exact hnext
    · rw [if_neg (mt Option.some.inj hsame), List.destutter'_cons_pos _ hsame, List.map_cons,
        ← hnext]
      rfl

/-- Without a check before, the user is told of the runs of equal states but the first. -/
theorem notices_eq (h : watched.previous = none) (checks : List (Check ε)) :
    notices (watched.observations checks) =
      (((checks.map Check.connected).destutter (· ≠ ·)).map .ofConnection).tail := by
  cases checks with
  | nil => rfl
  | cons check checks =>
    rw [notices_cons, observation_eq, h, List.map_cons, List.destutter_cons',
      ← notices_of_previous (previous_after watched check)]
    rfl

/-- What the user is told alternates. -/
theorem isChain_notices (h : watched.previous = none) (checks : List (Check ε)) :
    (notices (watched.observations checks)).IsChain (· ≠ ·) := by
  have hstates : ((checks.map Check.connected).destutter (· ≠ ·)).IsChain (· ≠ ·) :=
    List.isChain_destutter _ _
  rw [notices_eq h]
  exact (List.isChain_map_of_isChain Notice.ofConnection
    (fun _ _ => Notice.ofConnection_injective.ne) hstates).tail

/-! ## What is shown -/

/-- The state of the connection before all of some checks, and after each of them: on a fresh
    tray there is no connection, and then it is what the check has shown. -/
def shown (checks : List (Check ε)) (i : Nat) : Bool :=
  (false :: checks.map Check.connected).getD i false

theorem shown_succ (h : checks[i]? = some check) : shown checks (i + 1) = check.connected := by
  rw [shown, List.getD_cons_succ, List.getD_eq_getElem?_getD, List.getElem?_map, h]
  rfl

/-- What is watched, from the beginning, after the first `i` of some checks. -/
def upTo (checks : List (Check ε)) (i : Nat) : Watched := ({} : Watched).afterAll (checks.take i)

theorem upTo_succ (h : checks[i]? = some check) :
    upTo checks (i + 1) = (upTo checks i).after check :=
  afterAll_take_succ {} h

theorem connected_upTo (h : i ≤ checks.length) :
    (upTo checks i).tray.state.connected = shown checks i := by
  cases i with
  | zero => rfl
  | succ i =>
    rw [upTo_succ (List.getElem?_eq_getElem h), shown_succ (List.getElem?_eq_getElem h),
      connected_after]

/-- The monitor knows what has been shown, once there was a check. -/
theorem previous_upTo (h : i ≤ checks.length) :
    (upTo checks i).previous = if i = 0 then none else some (shown checks i) := by
  cases i with
  | zero => rfl
  | succ i =>
    rw [upTo_succ (List.getElem?_eq_getElem h), shown_succ (List.getElem?_eq_getElem h),
      previous_after]
    rfl

/-- What follows from a check depends on what it has shown and what was shown before. -/
theorem getElem?_observations_fresh (h : i < checks.length) :
    (({} : Watched).observations checks)[i]? =
      some (.ofChange (if i = 0 then none else some (shown checks i)) (shown checks (i + 1))) := by
  rw [getElem?_observations {} (List.getElem?_eq_getElem h), observation_eq,
    ← shown_succ (List.getElem?_eq_getElem h), ← previous_upTo (Nat.le_of_lt h)]
  rfl

/-- What follows from all of some checks, one by one. -/
theorem observations_fresh (checks : List (Check ε)) :
    ({} : Watched).observations checks = (List.range checks.length).map fun i =>
      .ofChange (if i = 0 then none else some (shown checks i)) (shown checks (i + 1)) := by
  refine List.ext_getElem? fun i => ?_
  rw [List.getElem?_map]
  by_cases h : i < checks.length
  · rw [getElem?_observations_fresh h, List.getElem?_range h, Option.map_some]
  · have hlength : (({} : Watched).observations checks).length ≤ i :=
      (length_observations _ _).trans_le (Nat.le_of_not_lt h)
    have hrange : (List.range checks.length).length ≤ i :=
      List.length_range.trans_le (Nat.le_of_not_lt h)
    rw [List.getElem?_eq_none hlength, List.getElem?_eq_none hrange, Option.map_none]

theorem signals_upTo_succ (h : i < checks.length) :
    (upTo checks (i + 1)).tray.signals = (upTo checks i).tray.signals.map (· ++
      if shown checks (i + 1) = shown checks i then []
      else [.newIcon, .newToolTip,
        .layoutUpdated (upTo checks (i + 1)).tray.state.revision Menu.rootId]) := by
  rw [upTo_succ (List.getElem?_eq_getElem h), shown_succ (List.getElem?_eq_getElem h),
    ← connected_upTo (Nat.le_of_lt h), tray_after, Tray.signals_after_updateStatus]
  simp only [eq_comm]

/-! ## Checks that show the same -/

/-- What is remembered of the checks, and what the desktop is told, is the same. -/
structure Alike (watched watched' : Watched) : Prop where
  previous : watched.previous = watched'.previous
  connected : watched.tray.state.connected = watched'.tray.state.connected
  revision : watched.tray.state.revision = watched'.tray.state.revision
  signals : watched.tray.signals = watched'.tray.signals

theorem Alike.refl (watched : Watched) : Alike watched watched := ⟨rfl, rfl, rfl, rfl⟩

/-- Neither the time of a check nor the reason of a failure makes a difference. -/
theorem Alike.after {check' : Check ε'} (h : Alike watched watched')
    (hshown : check.connected = check'.connected) :
    Alike (watched.after check) (watched'.after check') := by
  have hrevision : (watched.after check).tray.state.revision =
      (watched'.after check').tray.state.revision := by
    rw [tray_after, tray_after, Tray.revision_after_updateStatus,
      Tray.revision_after_updateStatus, h.connected, h.revision, hshown]
  refine ⟨?_, ?_, hrevision, ?_⟩
  · rw [previous_after, previous_after, hshown]
  · rw [connected_after, connected_after, hshown]
  · rw [tray_after, tray_after] at hrevision
    rw [tray_after, tray_after, Tray.signals_after_updateStatus,
      Tray.signals_after_updateStatus, hrevision, h.connected, h.signals, hshown]

theorem Alike.afterAll {checks' : List (Check ε')} (h : Alike watched watched')
    (hshown : checks.map Check.connected = checks'.map Check.connected) :
    Alike (watched.afterAll checks) (watched'.afterAll checks') ∧
      watched.observations checks = watched'.observations checks' := by
  induction checks generalizing watched watched' checks' with
  | nil =>
    obtain rfl := List.map_eq_nil_iff.1 hshown.symm
    exact ⟨h, rfl⟩
  | cons check checks ih =>
    obtain ⟨check', checks', rfl, hcheck, hchecks⟩ := List.map_eq_cons_iff.1 hshown.symm
    obtain ⟨halike, hobservations⟩ := ih (h.after hcheck.symm) hchecks.symm
    refine ⟨halike, ?_⟩
    rw [observations, observations, hobservations, observation_eq, observation_eq, h.previous,
      hcheck]

/-- From the beginning, checks that show the same have the same effect, one by one. -/
theorem alike_upTo {others : List (Check ε')}
    (hshown : others.map Check.connected = checks.map Check.connected) :
    ({} : Watched).observations others = ({} : Watched).observations checks ∧
      ∀ i, Alike (upTo others i) (upTo checks i) := by
  refine ⟨((Alike.refl {}).afterAll hshown).2, fun i => ((Alike.refl {}).afterAll ?_).1⟩
  rw [List.map_take, List.map_take, hshown]

end Watched

/-! ## The monitor -/

namespace Monitor

variable {monitor : Monitor} {log : Log} {watched : Watched}

/-- The notification of a change of the connection. -/
def news (desktop : Desktop) (connected : Bool) : List Run :=
  if connected then
    desktop.notification "Twingate Connected" "You are now connected to Twingate"
  else desktop.notification "Twingate Disconnected" "You are now disconnected from Twingate"

/-- The runs by which the monitor tells the user something. -/
def tellings (monitor : Monitor) (notices : List Notice) : List Run :=
  notices.flatMap fun notice => monitor.desktop.notification notice.title notice.body

theorem tellings_ofConnection (monitor : Monitor) (connected : Bool) :
    monitor.tellings [.ofConnection connected] = news monitor.desktop connected := by
  cases connected with
  | true | false => exact List.flatMap_singleton _ _

/-- The user is told of what follows from some checks by what follows from each. -/
theorem tellings_notices (monitor : Monitor) (observations : List Observation) :
    monitor.tellings (Watched.notices observations) =
      observations.flatMap fun observation => monitor.tellings observation.notice.toList := by
  rw [tellings, Watched.notices, List.filterMap_eq_flatMap_toList, List.flatMap_assoc]
  rfl

open Watched in
/-- From the beginning, the user is told of every change of what is shown but the first check. -/
theorem tellings_fresh (monitor : Monitor) (checks : List (Check ε)) :
    monitor.tellings (notices (({} : Watched).observations checks)) =
      (List.range checks.length).flatMap fun i =>
        if i ≠ 0 ∧ shown checks (i + 1) ≠ shown checks i then
          news monitor.desktop (shown checks (i + 1))
        else [] := by
  rw [tellings_notices, observations_fresh, List.flatMap_map]
  refine congrArg (List.range checks.length).flatMap (funext fun i => ?_)
  rw [notice_ofChange]
  split
  · exact tellings_ofConnection _ _
  · rfl

/-- Takes the results of some checks, one after the other. -/
def takeAll (monitor : Monitor) (checks : List (Check ε)) : Watching (List Observation) :=
  checks.mapM fun check => monitor.take check.now check.result

theorem run_take_of_none {check : Check ε} (h : (watched.observation check).notice = none) :
    (monitor.take check.now check.result).run watched =
      pure (watched.observation check, watched.after check) := by
  have hnone : (Watched.observe check.now check.result watched).1.notice = none := h
  rw [take, StateT.run_bind, StateT.run_modifyGet, pure_bind]
  simp only [hnone]
  rfl

/-- The user is told when a check has gone to the tray and the monitor. -/
theorem run_take_of_some {check : Check ε} {notice : Notice}
    (h : (watched.observation check).notice = some notice) :
    (monitor.take check.now check.result).run watched =
      monitor.desktop.notify notice.title notice.body >>= fun _ =>
        pure (watched.observation check, watched.after check) := by
  have hsome : (Watched.observe check.now check.result watched).1.notice = some notice := h
  rw [take, StateT.run_bind, StateT.run_modifyGet, pure_bind]
  simp only [hsome]
  rw [StateT.run_bind, tell, StateT.run_monadLift]
  exact Shell.bind_assoc _ _ _

theorem ends_take {check : Check ε} {out : Observation × Watched}
    (h : Ends ((monitor.take check.now check.result).run watched) log out) :
    out = (watched.observation check, watched.after check) ∧
      log.map (·.1) = monitor.tellings (watched.observation check).notice.toList := by
  cases hnotice : (watched.observation check).notice with
  | none =>
    rw [run_take_of_none hnotice] at h
    obtain ⟨rfl, rfl⟩ := ends_pure_iff.1 h
    exact ⟨rfl, rfl⟩
  | some notice =>
    rw [run_take_of_some hnotice] at h
    obtain ⟨⟨_, hnotify⟩, rfl⟩ := ends_bind_pure_iff.1 h
    refine ⟨rfl, ?_⟩
    rw [Desktop.runs_of_notify hnotify]
    exact (List.flatMap_singleton _ _).symm

theorem ends_takeAll {checks : List (Check ε)} {out : List Observation × Watched}
    (h : Ends ((monitor.takeAll checks).run watched) log out) :
    out = (watched.observations checks, watched.afterAll checks) ∧
      log.map (·.1) = monitor.tellings (Watched.notices (watched.observations checks)) := by
  induction checks generalizing watched log out with
  | nil =>
    obtain ⟨rfl, rfl⟩ := ends_pure_iff.1 h
    exact ⟨rfl, rfl⟩
  | cons check checks ih =>
    rw [takeAll, List.mapM_cons, StateT.run_bind] at h
    obtain ⟨first, out₁, rest, rfl, hfirst, hrest⟩ := ends_bind_iff.1 h
    obtain ⟨rfl, hfirstRuns⟩ := ends_take hfirst
    rw [StateT.run_bind] at hrest
    obtain ⟨later, out₂, none, rfl, hlater, hnone⟩ := ends_bind_iff.1 hrest
    obtain ⟨rfl, hlaterRuns⟩ := ih hlater
    obtain ⟨rfl, rfl⟩ := ends_pure_iff.1 hnone
    refine ⟨rfl, ?_⟩
    rw [List.append_nil, List.map_append, hfirstRuns, hlaterRuns, Watched.notices_cons, tellings,
      tellings, tellings, List.flatMap_append]

open Watched in
/-- What comes of some checks on a fresh tray: the programs that have been run, what follows from
    each of the checks, and what is watched in the end. -/
structure Followed (monitor : Monitor) (checks : List (Check ε)) (log : Log)
    (out : List Observation × Watched) : Prop where
  /-- The tray shows what the last check has shown. -/
  connected : ∀ i ≤ checks.length, (upTo checks i).tray.state.connected = shown checks i
  /-- The first check is a change, and so is every check that shows something else than the one
      before. -/
  changed : ∀ i < checks.length, out.1[i]?.map (·.changed) =
    some (if i = 0 ∨ shown checks (i + 1) ≠ shown checks i then some (shown checks (i + 1))
      else none)
  /-- The user is to be told of every change but the first check. -/
  notice : ∀ i < checks.length, out.1[i]?.map (·.notice) =
    some (if i ≠ 0 ∧ shown checks (i + 1) ≠ shown checks i then
      some (if shown checks (i + 1) then .connected else .disconnected) else none)
  /-- The programs that have been run are one notification for each of these changes, which says
      what is shown from then on. -/
  told : log.map (·.1) = (List.range checks.length).flatMap fun i =>
    if i ≠ 0 ∧ shown checks (i + 1) ≠ shown checks i then
      news monitor.desktop (shown checks (i + 1))
    else []
  /-- What the user is told alternates. -/
  alternate : (notices out.1).IsChain (· ≠ ·)
  /-- The desktop is told of every change of what is shown. -/
  signals : ∀ i < checks.length, (upTo checks (i + 1)).tray.signals =
    (upTo checks i).tray.signals.map (· ++ if shown checks (i + 1) = shown checks i then []
      else [.newIcon, .newToolTip,
        .layoutUpdated (upTo checks (i + 1)).tray.state.revision Menu.rootId])
  /-- Nothing but the checks has changed what is watched. -/
  watched : out.1.length = checks.length ∧ out.2 = upTo checks checks.length
  /-- Nothing of it depends on anything but what the checks have shown. -/
  alike : ∀ {ε' : Type} (others : List (Check ε')),
    others.map Check.connected = checks.map Check.connected →
      ({} : Watched).observations others = out.1 ∧
        ∀ i, Alike (upTo others i) (upTo checks i)

/-- Whatever the results of the status checks are, they are followed as they should be. -/
theorem followed (monitor : Monitor) (checks : List (Check ε)) {σ : Type}
    (machine : Run → σ → Outcome × σ) (s : σ) :
    Followed monitor checks (((monitor.takeAll checks).run {}).log machine s)
      (((monitor.takeAll checks).run {}).exec machine s).1 := by
  obtain ⟨hout, hlog⟩ := ends_takeAll (ends_log machine ((monitor.takeAll checks).run {}) s)
  rw [hout]
  exact {
    connected := fun i hi => Watched.connected_upTo hi
    changed := fun i hi => by
      rw [Watched.getElem?_observations_fresh hi, Option.map_some, Watched.changed_ofChange]
    notice := fun i hi => by
      rw [Watched.getElem?_observations_fresh hi, Option.map_some, Watched.notice_ofChange,
        Notice.ofConnection_eq]
    told := hlog.trans (tellings_fresh monitor checks)
    alternate := Watched.isChain_notices rfl checks
    signals := fun i hi => Watched.signals_upTo_succ hi
    watched := ⟨Watched.length_observations _ _, by rw [Watched.upTo, List.take_length]⟩
    alike := fun _ hshown => Watched.alike_upTo hshown
  }

end Monitor

end VpnTray
