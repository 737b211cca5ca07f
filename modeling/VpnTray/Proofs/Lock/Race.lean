import Mathlib.Data.List.Induction
import Mathlib.Data.List.Infix
import VpnTray.Proofs.Lock.Acquire

/-!
# Two processes at one lock

Two live processes take the lock of one file, and their operations on files come in any
order. Nothing makes the reading of the lock file and the writing of it one operation, so
that everything depends on whether the two are at it at the same time:

* if one has ended whenever the other is at it, one of them at most has the lock in the end
  (`exclusive_of_apart`), as long as the lock file can be read if it can be written;
* if both have looked for a live process in vain, neither is refused any more
  (`not_refused_of_together`), and both may have the lock in the end (`both_hold`).

Who does the next operation is told by a schedule. The proofs follow each process through the
phases of its work, and `Phase.Advance` is all that a turn can do.
-/

namespace VpnTray

namespace Stepped

variable {σ α : Type}

/-- One step of some work, if there is one left. -/
def advance : Stepped σ α × σ → Stepped σ α × σ
  | (done a, s) => (done a, s)
  | (step write next, s) => (next s, write s)

theorem advance_of_step {before after : Stepped σ α × σ} (h : Step before after) :
    advance before = after := by
  cases h
  rfl

/-- The result of some work, if no step is left. -/
def result? : Stepped σ α → Option α
  | done a => some a
  | step _ _ => none

end Stepped

namespace Lock

variable {processes : Processes} {lock : Lock} {files changed : Files}

/-- How far a process has come with taking a lock. -/
inductive Phase
  | reading
  | removing
  | making
  | writing
  | ended (outcome : Except Error Lock)

namespace Phase

/-- The work that is left to do. -/
def work (processes : Processes) (lock : Lock) : Phase → Stepped Files (Except Error Lock)
  | reading => (lock.acquire processes).run
  | removing => Lock.removing processes lock
  | making => Lock.making processes lock
  | writing => Lock.writing processes lock
  | ended outcome => pure outcome

/-- What a turn of a process can do: find a live process or none, go on with the next
    operation, fail, or take the lock. -/
inductive Advance (processes : Processes) (lock : Lock) : Phase → Files → Phase → Files → Prop
  | refuse {files : Files} {text : Text} {pid : UInt32} (hread : files.read lock.path = .ok text)
    (hholder : holder? processes text = some pid) :
    Advance processes lock reading files (ended (.error (.alreadyRunning pid))) files
  | stale {files : Files} (hfree : Free processes files lock.path) :
    Advance processes lock reading files removing files
  | missing {files : Files} (hfree : Free processes files lock.path) :
    Advance processes lock reading files making files
  | remove {files changed : Files} (hloosens : Files.Loosens files changed) :
    Advance processes lock removing files making changed
  | make {files changed : Files} (hloosens : Files.Loosens files changed) :
    Advance processes lock making files writing changed
  | fail {phase : Phase} (hphase : phase = removing ∨ phase = making ∨ phase = writing)
    (cause : IoError) {files changed : Files} (hloosens : Files.Loosens files changed) :
    Advance processes lock phase files (ended (.error (.io cause))) changed
  | take {files changed : Files} (hloosens : Files.Loosens files changed)
    (hreadable : files.Legible lock.path →
      changed.Readable lock.path (content processes.own)) :
    Advance processes lock writing files (ended (.ok { lock with held := true })) changed
  | rest (outcome : Except Error Lock) (files : Files) :
    Advance processes lock (ended outcome) files (ended outcome) files

theorem advance_andThen (operation : Files → Except IoError Unit × Files)
    (rest : Stepped Files (Except Error Lock)) (files : Files) :
    Stepped.advance (andThen operation rest, files) =
      (match (operation files).1 with
        | .ok () => rest
        | .error cause => pure (.error (.io cause)), (operation files).2) :=
  Stepped.advance_of_step (Stepped.step_act_bind.2 rfl)

theorem exists_advance (processes : Processes) (lock : Lock) (phase : Phase) (files : Files) :
    ∃ next changed, Stepped.advance (phase.work processes lock, files) =
      (next.work processes lock, changed) ∧ Advance processes lock phase files next changed := by
  cases phase with
  | reading =>
    rw [work, acquire_eq, Stepped.advance_of_step (Stepped.step_get_bind.2 rfl)]
    rcases hread : files.read lock.path with cause | text
    · refine ⟨making, files, rfl, .missing fun text htext => ?_⟩
      rw [hread] at htext
      cases htext
    · rcases hholder : holder? processes text with _ | pid
      · refine ⟨removing, files, ?_, .stale fun text' htext => ?_⟩
        · rw [deciding, hholder]
          rfl
        · rw [hread] at htext
          exact Except.ok.inj htext ▸ hholder
      · refine ⟨ended (.error (.alreadyRunning pid)), files, ?_, .refuse hread hholder⟩
        rw [deciding, hholder]
        rfl
  | removing =>
    have hloosens := Files.loosens_remove lock.path files
    rw [work, Lock.removing, advance_andThen]
    split
    · exact ⟨making, _, rfl, .remove hloosens⟩
    · exact ⟨ended _, _, rfl, .fail (.inl rfl) _ hloosens⟩
  | making =>
    have hloosens := Files.loosens_makeDirectories lock.path files
    rw [work, Lock.making, advance_andThen]
    split
    · exact ⟨writing, _, rfl, .make hloosens⟩
    · exact ⟨ended _, _, rfl, .fail (.inr (.inl rfl)) _ hloosens⟩
  | writing =>
    have hloosens := Files.loosens_write lock.path (content processes.own) files
    rw [work, Lock.writing, advance_andThen]
    split
    · next hwrite =>
      exact ⟨ended _, _, rfl, .take hloosens (Files.readable_of_write (Prod.ext hwrite rfl))⟩
    · exact ⟨ended _, _, rfl, .fail (.inr (.inr rfl)) _ hloosens⟩
  | ended outcome => exact ⟨ended outcome, files, rfl, .rest _ _⟩

/-- When the lock file is read, a live process is found, or it is known that there is none. -/
theorem Advance.of_reading {next : Phase} (h : Advance processes lock reading files next changed) :
    (∃ cause, next = ended (.error cause)) ∨
      Free processes files lock.path ∧ ∀ outcome, next ≠ ended outcome := by
  cases h with
  | refuse => exact .inl ⟨_, rfl⟩
  | stale hfree => exact .inr ⟨hfree, nofun⟩
  | missing hfree => exact .inr ⟨hfree, nofun⟩
  | fail hphase => simp at hphase

/-- When a lock is taken, its file is written. -/
theorem Advance.of_ended_ok {phase : Phase} {taken : Lock}
    (h : Advance processes lock phase files (ended (.ok taken)) changed)
    (hlegible : files.Legible lock.path) :
    (phase = writing ∧ changed.Readable lock.path (content processes.own)) ∨
      phase = ended (.ok taken) ∧ changed = files := by
  cases h with
  | take _ hreadable => exact .inl ⟨rfl, hreadable hlegible⟩
  | rest => exact .inr ⟨rfl, rfl⟩

/-- No turn takes a permission away. -/
theorem Advance.loosens {phase next : Phase}
    (h : Advance processes lock phase files next changed) : Files.Loosens files changed := by
  cases h with
  | refuse | stale | missing | rest => exact .refl files
  | remove hloosens | make hloosens | fail _ _ hloosens | take hloosens _ => exact hloosens

theorem Advance.ne_reading {phase next : Phase}
    (h : Advance processes lock phase files next changed) : next ≠ reading := by
  cases h <;> exact nofun

/-- Whoever has not been refused when the lock file was read is not refused later. -/
theorem Advance.ne_refused {phase next : Phase}
    (h : Advance processes lock phase files next changed) (hphase : phase ≠ reading)
    (hrefused : ∀ pid, phase ≠ ended (.error (.alreadyRunning pid))) (pid : UInt32) :
    next ≠ ended (.error (.alreadyRunning pid)) := by
  cases h with
  | refuse => exact absurd rfl hphase
  | rest => exact hrefused pid
  | stale | missing | remove | make | fail | take => exact nofun

/-- Whoever has ended does nothing more. -/
theorem Advance.of_ended {next : Phase} {outcome : Except Error Lock}
    (h : Advance processes lock (ended outcome) files next changed) : next = ended outcome := by
  cases h with
  | rest => rfl
  | fail hphase => simp at hphase

end Phase

end Lock

/-- Two processes that take the lock of one file, with what is left to do for each of them, and
    the files. -/
structure Race where
  work : Bool → Stepped Files (Except Error Lock)
  files : Files

namespace Race

open Lock (Phase)
open Lock.Phase (Advance)

/-- None of the two has begun. -/
def start (processes : Bool → Processes) (path : Path) (files : Files) : Race where
  work side := (Lock.acquire (processes side) { path }).run
  files

/-- One of the two does its next operation. -/
def turn (race : Race) (side : Bool) : Race where
  work other :=
    if other = side then (Stepped.advance (race.work side, race.files)).1 else race.work other
  files := (Stepped.advance (race.work side, race.files)).2

/-- The two do operations in some order. -/
def after (race : Race) (schedule : List Bool) : Race := schedule.foldl turn race

/-- One of the two has ended. -/
def ended (race : Race) (side : Bool) : Bool := (race.work side).result?.isSome

/-- One of the two has ended with the lock. -/
def holds (race : Race) (side : Bool) : Bool :=
  match (race.work side).result? with
  | some (.ok lock) => lock.held
  | _ => false

theorem after_append (race : Race) (earlier later : List Bool) :
    race.after (earlier ++ later) = (race.after earlier).after later :=
  List.foldl_append

/-- There are two of them. -/
theorem eq_of_ne {side other third : Bool} (h : other ≠ side) (h' : third ≠ side) :
    other = third := by
  rw [Bool.eq_not.2 h, Bool.eq_not.2 h']

variable {processes : Bool → Processes} {path : Path} {schedule : List Bool} {race : Race}
  {phases : Bool → Phase} {side : Bool}

/-- The two have come as far as some phases by some turns. -/
structure At (processes : Bool → Processes) (path : Path) (schedule : List Bool) (race : Race)
    (phases : Bool → Phase) : Prop where
  work : ∀ side, race.work side = (phases side).work (processes side) { path }
  reading : ∀ side, phases side = .reading ↔ side ∉ schedule

theorem at_start (processes : Bool → Processes) (path : Path) (files : Files) :
    At processes path [] (start processes path files) fun _ => .reading where
  work _ := rfl
  reading _ := ⟨fun _ => nofun, fun _ => rfl⟩

/-- A turn takes the one whose turn it is to another phase, and leaves the other where it is. -/
theorem At.exists_turn (h : At processes path schedule race phases) (side : Bool) :
    ∃ next, At processes path (schedule ++ [side]) (race.turn side) next ∧
      (∀ other, other ≠ side → next other = phases other) ∧
      Advance (processes side) { path } (phases side) race.files (next side)
        (race.turn side).files := by
  obtain ⟨next, changed, heq, hadvance⟩ :=
    (phases side).exists_advance (processes side) { path } race.files
  refine ⟨fun other => if other = side then next else phases other,
    ⟨fun other => ?_, fun other => ?_⟩, fun other hother => if_neg hother, ?_⟩
  · rw [turn, h.work side, heq]
    dsimp only
    split
    · next hother => rw [hother]
    · exact h.work other
  · by_cases hother : other = side
    · simp [hother, hadvance.ne_reading]
    · simp [hother, h.reading other]
  · rw [turn, h.work side, heq]
    simpa using hadvance

theorem At.result?_eq_some_iff (h : At processes path schedule race phases)
    {outcome : Except Error Lock} :
    (race.work side).result? = some outcome ↔ phases side = .ended outcome := by
  rw [h.work side]
  cases phases side with
  | ended result => exact Option.some_inj.trans (by simp)
  | reading => exact ⟨nofun, nofun⟩
  | removing => exact ⟨nofun, nofun⟩
  | making => exact ⟨nofun, nofun⟩
  | writing => exact ⟨nofun, nofun⟩

theorem At.ended_iff (h : At processes path schedule race phases) :
    race.ended side = true ↔ ∃ outcome, phases side = .ended outcome := by
  rw [ended, Option.isSome_iff_exists]
  exact exists_congr fun _ => h.result?_eq_some_iff

theorem At.exists_of_holds (h : At processes path schedule race phases)
    (hholds : race.holds side = true) : ∃ lock, phases side = .ended (.ok lock) := by
  rw [holds] at hholds
  split at hholds
  · next lock hlock => exact ⟨lock, h.result?_eq_some_iff.1 hlock⟩
  · cases hholds

/-! ## One after the other -/

/-- The two processes are live, and know it of each other. -/
def Live (processes : Bool → Processes) : Prop :=
  ∀ side other, side ≠ other →
    (processes side).own ≠ 0 ∧ (processes other).alive (processes side).own

/-- What is known of two processes that are not at it at the same time, after some turns. -/
structure Inv (processes : Bool → Processes) (path : Path) (schedule : List Bool) (race : Race)
    (phases : Bool → Phase) : Prop extends At processes path schedule race phases where
  /-- The lock file can be read if it can be written. -/
  legible : race.files.Legible path
  /-- When one of them has the lock, the other one has not begun, and the file names the one that
      has it; or the other one has failed. -/
  exclusive : ∀ side other lock, side ≠ other → phases side = .ended (.ok lock) →
    (other ∉ schedule ∧ race.files.Readable path (Lock.content (processes side).own)) ∨
    ∃ cause, phases other = .ended (.error cause)

theorem inv_start (processes : Bool → Processes) {path : Path} {files : Files}
    (hlegible : files.Legible path) :
    Inv processes path [] (start processes path files) fun _ => .reading :=
  ⟨at_start processes path files, hlegible, nofun⟩

/-- Whoever is about to write the lock file has begun when the other one had not, or fails. -/
theorem Inv.late_or_failed (h : Inv processes path schedule race phases)
    (hapart : (∃ side, side ∉ schedule) ∨ ∃ side, race.ended side) {side other : Bool}
    (hne : side ≠ other) (hwriting : phases side = .writing) :
    other ∉ schedule ∨ ∃ cause, phases other = .ended (.error cause) := by
  have hbegun : side ∈ schedule := by
    refine Decidable.by_contra fun hlate => ?_
    rw [(h.reading side).2 hlate] at hwriting
    cases hwriting
  rcases hapart with ⟨late, hlate⟩ | ⟨early, hended⟩
  · obtain rfl : late = other := eq_of_ne (by rintro rfl; exact hlate hbegun) hne.symm
    exact .inl hlate
  · obtain ⟨outcome, hended⟩ := h.ended_iff.1 hended
    obtain rfl : early = other := by
      refine eq_of_ne ?_ hne.symm
      rintro rfl
      rw [hwriting] at hended
      cases hended
    cases outcome with
    | error cause => exact .inr ⟨cause, hended⟩
    | ok lock =>
      -- If the other one had the lock, this one would not have begun, or would have failed.
      rcases h.exclusive early side lock hne.symm hended with ⟨hlate, -⟩ | ⟨cause, hfailed⟩
      · exact absurd hbegun hlate
      · rw [hwriting] at hfailed
        cases hfailed

/-- Whoever begins when the other one has the lock is refused. -/
theorem Inv.refused (h : Inv processes path schedule race phases) (hlive : Live processes)
    {side other : Bool} {lock : Lock} (hne : side ≠ other)
    (hheld : phases side = .ended (.ok lock)) {next : Phase} {changed : Files}
    (hadvance : Advance (processes other) { path } (phases other) race.files next changed) :
    ∃ cause, next = .ended (.error cause) := by
  rcases h.exclusive side other lock hne hheld with ⟨hlate, hreadable⟩ | ⟨cause, hfailed⟩
  · rw [(h.reading other).2 hlate] at hadvance
    rcases hadvance.of_reading with hrefused | ⟨hfree, -⟩
    · exact hrefused
    · obtain ⟨hpid, halive⟩ := hlive side other hne
      exact absurd hreadable (hfree.not_readable hpid halive)
  · rw [hfailed] at hadvance
    exact ⟨cause, hadvance.of_ended⟩

theorem Inv.turn (h : Inv processes path schedule race phases) (hlive : Live processes)
    (hapart : (∃ side, side ∉ schedule) ∨ ∃ side, race.ended side) (turn : Bool) :
    ∃ next, Inv processes path (schedule ++ [turn]) (race.turn turn) next := by
  obtain ⟨next, hnext, hothers, hadvance⟩ := h.toAt.exists_turn turn
  refine ⟨next, hnext, h.legible.of_loosens hadvance.loosens,
    fun side other lock hne hended => ?_⟩
  by_cases hside : side = turn
  · subst hside
    have hstill : other ∉ schedule → other ∉ schedule ++ [side] := fun hlate => by
      simp [hlate, hne.symm]
    rw [hothers other hne.symm]
    rw [hended] at hadvance
    rcases hadvance.of_ended_ok h.legible with ⟨hwriting, hreadable⟩ | ⟨hbefore, hfiles⟩
    · exact (h.late_or_failed hapart hne hwriting).imp_left fun hlate =>
        ⟨hstill hlate, hreadable⟩
    · rw [hfiles]
      exact (h.exclusive side other lock hne hbefore).imp_left (.imp_left hstill)
  · rw [hothers side hside] at hended
    obtain rfl : other = turn := eq_of_ne hne.symm (Ne.symm hside)
    exact .inr (h.refused hlive hne hended hadvance)

/-- Two processes are not at it at the same time: whenever both have begun, one of them has
    ended. -/
def Apart (race : Race) (schedule : List Bool) : Prop :=
  ∀ earlier, earlier <+: schedule →
    (∃ side, side ∉ earlier) ∨ ∃ side, (race.after earlier).ended side

theorem Apart.exists_inv {files : Files} (h : (start processes path files).Apart schedule)
    (hlive : Live processes) (hlegible : files.Legible path) :
    ∃ phases, Inv processes path schedule ((start processes path files).after schedule) phases := by
  induction schedule using List.reverseRecOn with
  | nil => exact ⟨_, inv_start processes hlegible⟩
  | append_singleton schedule turn ih =>
    obtain ⟨phases, hinv⟩ :=
      ih fun earlier hbefore => h earlier (hbefore.trans (List.prefix_append _ _))
    rw [after_append]
    exact hinv.turn hlive (h schedule (List.prefix_append _ _)) turn

/-- Of two live processes that take a lock, but not at the same time, one at most has it in the
    end. The lock file must not be one that can be written but not read: nobody would see whose it
    is. -/
theorem exclusive_of_apart {files : Files} (hlive : Live processes)
    (hlegible : files.Legible path) (h : (start processes path files).Apart schedule) :
    ¬(((start processes path files).after schedule).holds false ∧
      ((start processes path files).after schedule).holds true) := by
  rintro ⟨hfirst, hsecond⟩
  obtain ⟨phases, hinv⟩ := h.exists_inv hlive hlegible
  obtain ⟨first, hfirst⟩ := hinv.exists_of_holds hfirst
  obtain ⟨second, hsecond⟩ := hinv.exists_of_holds hsecond
  -- The one that has the lock has begun, and has not failed.
  rcases hinv.exclusive false true first (by decide) hfirst with ⟨hlate, -⟩ | ⟨cause, hfailed⟩
  · rw [(hinv.reading true).2 hlate] at hsecond
    cases hsecond
  · rw [hfailed] at hsecond
    cases hsecond

/-- Two live processes. -/
def two (side : Bool) : Processes where
  own := if side then 2 else 1
  alive pid := pid = 1 ∨ pid = 2

theorem live_two : Live two := by
  unfold Live
  decide

/-- The process that is late is refused. -/
theorem exclusive_of_late :
    Live two ∧ Files.empty.Legible ['/', 'l'] ∧
      (start two ['/', 'l'] .empty).Apart [false, false, false, true] ∧
      ((start two ['/', 'l'] .empty).after [false, false, false, true]).holds false ∧
      ¬((start two ['/', 'l'] .empty).after [false, false, false, true]).holds true := by
  have hapart : (start two ['/', 'l'] .empty).Apart [false, false, false, true] := by
    intro earlier h
    rw [← List.mem_inits] at h
    revert earlier
    decide +kernel
  have hholds : ((start two ['/', 'l'] .empty).after [false, false, false, true]).holds false := by
    decide +kernel
  have hlegible : Files.empty.Legible ['/', 'l'] := fun _ => rfl
  exact ⟨live_two, hlegible, hapart, hholds,
    fun h => exclusive_of_apart live_two hlegible hapart ⟨hholds, h⟩⟩

/-! ## Both at the same time -/

theorem exists_at (processes : Bool → Processes) (path : Path) (files : Files)
    (schedule : List Bool) :
    ∃ phases, At processes path schedule ((start processes path files).after schedule) phases := by
  induction schedule using List.reverseRecOn with
  | nil => exact ⟨_, at_start processes path files⟩
  | append_singleton schedule turn ih =>
    obtain ⟨phases, hat⟩ := ih
    obtain ⟨next, hnext, -⟩ := hat.exists_turn turn
    rw [after_append]
    exact ⟨next, hnext⟩

/-- If both have begun and none of them has ended, nobody is refused any more. -/
theorem not_refused_of_together {files : Files} {earlier : List Bool}
    (hbegun : ∀ side, side ∈ earlier)
    (hended : ∀ side, ((start processes path files).after earlier).ended side = false)
    (later : List Bool) (side : Bool) (pid : UInt32) :
    (((start processes path files).after (earlier ++ later)).work side).result? ≠
      some (.error (.alreadyRunning pid)) := by
  have hnone : ∃ phases, At processes path (earlier ++ later)
      ((start processes path files).after (earlier ++ later)) phases ∧
      ∀ side pid, phases side ≠ .ended (.error (.alreadyRunning pid)) := by
    induction later using List.reverseRecOn with
    | nil =>
      obtain ⟨phases, hat⟩ := exists_at processes path files earlier
      rw [List.append_nil]
      refine ⟨phases, hat, fun side pid heq => ?_⟩
      exact Bool.eq_false_iff.1 (hended side) (hat.ended_iff.2 ⟨_, heq⟩)
    | append_singleton later turn ih =>
      obtain ⟨phases, hat, hnone⟩ := ih
      obtain ⟨next, hnext, hothers, hadvance⟩ := hat.exists_turn turn
      rw [← List.append_assoc, after_append]
      refine ⟨next, hnext, fun side => ?_⟩
      by_cases hside : side = turn
      · subst hside
        refine hadvance.ne_refused (fun hreading => ?_) (hnone side)
        exact (hat.reading side).1 hreading (List.mem_append_left _ (hbegun side))
      · rw [hothers side hside]
        exact hnone side
  obtain ⟨phases, hat, hnone⟩ := hnone
  exact fun heq => hnone side pid (hat.result?_eq_some_iff.1 heq)

/-- Two live processes that both find no lock file both have the lock in the end. -/
theorem both_hold :
    Live two ∧ (two false).own ≠ (two true).own ∧
      ((start two ['/', 'l'] .empty).after [false, true, false, false, true, true]).holds false ∧
      ((start two ['/', 'l'] .empty).after [false, true, false, false, true, true]).holds true :=
  ⟨live_two, by decide, by decide +kernel, by decide +kernel⟩

end Race

end VpnTray
