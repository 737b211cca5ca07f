import VpnTray.Daemon
import VpnTray.Proofs.Lock.Acquire
import VpnTray.Proofs.Stepped

/-!
# The life of the tray and its lock

While the tray takes its lock, reads its configuration and gives the lock back, others may
change whatever they like, as long as they leave the lock file and its directory alone. Then the
tray leaves no lock file behind that it has taken, if it may remove files from the directory at
all, and none is changed that belongs to a live process; and the code by which the tray ends says
whether all went well (`lived`).

* `Files.LeaveAlone`: what others do to the files, but not to the lock file or its directory;
* `Lock.tried_acquire`: what comes of it when a lock is taken among them.
-/

namespace VpnTray

variable {others : Nat → Files → Files} {files : Files} {path : Path}

/-- Whatever others do, a path names what it has named before, and what could be removed there can
    still be. -/
structure Files.LeaveAlone (others : Nat → Files → Files) (path : Path) : Prop where
  lookup_eq : ∀ n files, (others n files).lookup path = files.lookup path
  mayChange : ∀ n files, files.mayChange path.place = true →
    (others n files).mayChange path.place = true

/-! ## Taking the lock -/

namespace Lock

variable {processes : Processes} {lock : Lock} {moment : Nat × Files}

/-- What comes of taking a lock that others leave alone: it is refused, and the file is as it was;
    or it fails; or it is taken, and the file is there and can be removed, if files could be removed
    from its directory before. -/
inductive Tried (lock : Lock) (files : Files) : Except Error Lock × (Nat × Files) → Prop
  | refused {content : ByteArray} {pid : UInt32} {moment : Nat × Files}
    (hfile : files.lookup lock.path = .ok (.file content))
    (hkept : moment.2.lookup lock.path = .ok (.file content)) :
    Tried lock files (.error (.alreadyRunning pid), moment)
  | failed {cause : IoError} {moment : Nat × Files} :
    Tried lock files (.error (.io cause), moment)
  | taken {content : ByteArray} {moment : Nat × Files}
    (hlookup : moment.2.lookup lock.path = .ok (.file content))
    (hchange : files.mayChange lock.path.place = true →
      moment.2.mayChange lock.path.place = true) :
    Tried lock files (.ok { lock with held := true }, moment)

/-- An operation on files that fails ends the work. -/
theorem tried_andThen {operation : Files → Except IoError Unit × Files}
    {work : Stepped Files (Except Error Lock)} (hleave : Files.LeaveAlone others lock.path)
    (hloosens : ∀ files, Files.Loosens files (operation files).2)
    (hchange : files.mayChange lock.path.place = true →
      moment.2.mayChange lock.path.place = true)
    (h : ∀ changed, operation (others moment.1 moment.2) = (.ok (), changed) →
      (files.mayChange lock.path.place = true → changed.mayChange lock.path.place = true) →
        Tried lock files (work.runAmid others (moment.1 + 1, changed))) :
    Tried lock files ((andThen operation work).runAmid others moment) := by
  have hstill : files.mayChange lock.path.place = true →
      (operation (others moment.1 moment.2)).2.mayChange lock.path.place = true :=
    fun hfirst => (hloosens _).mayChange (hleave.mayChange _ _ (hchange hfirst))
  rw [andThen, Stepped.runAmid_bind, Stepped.runAmid_act]
  rcases hoperation : operation (others moment.1 moment.2) with ⟨cause | _, changed⟩
  · exact .failed
  · rw [hoperation] at hstill
    exact h changed hoperation hstill

theorem tried_writing (hleave : Files.LeaveAlone others lock.path)
    (hchange : files.mayChange lock.path.place = true →
      moment.2.mayChange lock.path.place = true) :
    Tried lock files ((writing processes lock).runAmid others moment) :=
  tried_andThen hleave (Files.loosens_write _ _) hchange fun _ hwrite hstill =>
    .taken (Files.lookup_of_write hwrite) hstill

theorem tried_making (hleave : Files.LeaveAlone others lock.path)
    (hchange : files.mayChange lock.path.place = true →
      moment.2.mayChange lock.path.place = true) :
    Tried lock files ((making processes lock).runAmid others moment) :=
  tried_andThen hleave (Files.loosens_makeDirectories _) hchange fun _ _ hstill =>
    tried_writing hleave hstill

theorem tried_acquire (hleave : Files.LeaveAlone others lock.path) (n : Nat) (files : Files) :
    Tried lock files ((lock.acquire processes).run.runAmid others (n, files)) := by
  rw [acquire_eq, Stepped.runAmid_bind, Stepped.runAmid_get]
  have hchange := hleave.mayChange n files
  rcases hread : (others n files).read lock.path with cause | text
  · exact tried_making hleave hchange
  · dsimp only [deciding]
    cases holder? processes text with
    | none =>
      exact tried_andThen hleave (Files.loosens_remove _) hchange fun _ _ hstill =>
        tried_making hleave hstill
    | some pid =>
      obtain ⟨content, hreadable, -⟩ := Files.read_eq_ok_iff.1 hread
      exact .refused ((hleave.lookup_eq n files).symm.trans hreadable.lookup_eq)
        hreadable.lookup_eq

/-- The lock file is removed when the lock is given back. -/
theorem lookup_of_release {content : ByteArray} (hheld : lock.held = true)
    (hleave : Files.LeaveAlone others lock.path)
    (hlookup : moment.2.lookup lock.path = .ok (.file content))
    (hchange : moment.2.mayChange lock.path.place = true) :
    (lock.release.runAmid others moment).2.2.lookup lock.path = .error .notFound := by
  have hfile : (others moment.1 moment.2).lookup lock.path = .ok (.file content) :=
    (hleave.lookup_eq _ _).trans hlookup
  rw [release, if_pos hheld]
  exact Files.lookup_of_remove hfile (hleave.mayChange _ _ hchange)

end Lock

theorem Ending.outcome_eq_ok_iff {ending : Ending} :
    ending.outcome = .ok () ↔ ending ∈ [.quit, .interrupt, .terminate, .quitSignal] := by
  cases ending <;> simp [outcome]

namespace Daemon

variable (daemon : Daemon) (options : TrayOptions) (start : Except Error Unit) (ending : Ending)
  (others : Nat → Files → Files) (files : Files)

/-- What comes of taking the lock, and the moment after it. -/
def acquisition : Except Error Lock × (Nat × Files) := daemon.acquire.runAmid others (0, files)

/-- The configuration that is there when it is read. -/
def reading (moment : Nat × Files) : Except Error Config :=
  Config.load (others moment.1 moment.2) daemon.configPath

/-- What comes of the life of the tray, and the moment after it. -/
def life : Except Error Unit × (Nat × Files) :=
  (daemon.run options start ending).runAmid others (0, files)

/-- What the tray leaves behind, and how it ends. -/
structure Lived : Prop where
  /-- A lock that was taken is given back, if files may be removed from its directory. -/
  released : files.mayChange daemon.lockPath.place = true →
    ∀ lock, (daemon.acquisition others files).1 = .ok lock →
      (daemon.life options start ending others files).2.2.lookup daemon.lockPath =
        .error .notFound
  /-- A lock file for which the lock was refused is as it was. -/
  refused : ∀ pid, (daemon.acquisition others files).1 = .error (.alreadyRunning pid) →
    ∃ content, files.lookup daemon.lockPath = .ok (.file content) ∧
      (daemon.life options start ending others files).2.2.lookup daemon.lockPath =
        .ok (.file content)
  /-- It is a success to have been told to quit, after all else went well. -/
  exitCode : Daemon.exitCode (daemon.life options start ending others files).1 = 0 ↔
    (∃ lock, (daemon.acquisition others files).1 = .ok lock) ∧
      (∃ config, daemon.reading others (daemon.acquisition others files).2 = .ok config) ∧
      start = .ok () ∧ ending ∈ [.quit, .interrupt, .terminate, .quitSignal]

variable {daemon options start ending others files} {moment : Nat × Files}

theorem exitCode_eq_zero_iff {outcome : Except Error Unit} :
    exitCode outcome = 0 ↔ outcome = .ok () := by
  cases outcome with
  | ok => exact iff_of_true rfl rfl
  | error cause => exact iff_of_false nofun nofun

/-- Without the lock, nothing more is done. -/
theorem life_of_error {cause : Error}
    (h : daemon.acquisition others files = (.error cause, moment)) :
    daemon.life options start ending others files = (.error cause, moment) := by
  rw [acquisition] at h
  rw [life, run, begin, Stepped.runAmid_bind, Stepped.runAmid_bind, h]
  rfl

/-- With the lock, the configuration is read, and decides whether the tray starts. -/
theorem runAmid_begin_of_ok {lock : Lock}
    (h : daemon.acquisition others files = (.ok lock, moment)) :
    (daemon.begin options start).runAmid others (0, files) =
      ((some lock, (daemon.reading others moment).bind fun _ => start),
        (moment.1 + 1, others moment.1 moment.2)) := by
  rw [acquisition] at h
  rw [begin, Stepped.runAmid_bind, h, reading]
  dsimp only
  rw [Stepped.runAmid_bind, load, Stepped.runAmid_get]
  cases Config.load (others moment.1 moment.2) daemon.configPath with
  | error cause => rfl
  | ok config => rfl

/-- Whatever comes of that, the lock is given back. -/
theorem life_of_ok {lock : Lock} (h : daemon.acquisition others files = (.ok lock, moment)) :
    daemon.life options start ending others files =
      (((daemon.reading others moment).bind fun _ => start).bind fun _ => ending.outcome,
        (lock.release.runAmid others (moment.1 + 1, others moment.1 moment.2)).2) := by
  rw [life, run, Stepped.runAmid_bind, runAmid_begin_of_ok h]
  dsimp only
  rw [Stepped.runAmid_bind, Stepped.runAmid_discard]
  rfl

/-- All goes well if each part does. -/
theorem outcome_eq_ok_iff {α : Type} {read : Except Error α} :
    ((read.bind fun _ => start).bind fun _ => ending.outcome) = .ok () ↔
      (∃ a, read = .ok a) ∧ start = .ok () ∧
        ending ∈ [.quit, .interrupt, .terminate, .quitSignal] := by
  rw [← Ending.outcome_eq_ok_iff]
  cases read with
  | error cause => exact iff_of_false nofun nofun
  | ok a =>
    cases start with
    | error cause => exact iff_of_false nofun nofun
    | ok => simp [Except.bind]

theorem tried_acquisition (hleave : Files.LeaveAlone others daemon.lockPath) (files : Files) :
    Lock.Tried { path := daemon.lockPath } files (daemon.acquisition others files) :=
  Lock.tried_acquire hleave 0 files

/-- Between its making and its removal the lock file is there, as the others leave it alone. -/
theorem lookup_life_of_ok (hleave : Files.LeaveAlone others daemon.lockPath)
    (hchange : files.mayChange daemon.lockPath.place = true) {lock : Lock}
    (h : daemon.acquisition others files = (.ok lock, moment)) :
    (daemon.life options start ending others files).2.2.lookup daemon.lockPath =
      .error .notFound := by
  have htried := tried_acquisition hleave files
  rw [h] at htried
  cases htried with
  | taken hlookup hstill =>
    rw [life_of_ok h]
    exact Lock.lookup_of_release rfl hleave ((hleave.lookup_eq _ _).trans hlookup)
      (hleave.mayChange _ _ (hstill hchange))

theorem lookup_life_of_refused (hleave : Files.LeaveAlone others daemon.lockPath) {pid : UInt32}
    (h : daemon.acquisition others files = (.error (.alreadyRunning pid), moment)) :
    ∃ content, files.lookup daemon.lockPath = .ok (.file content) ∧
      (daemon.life options start ending others files).2.2.lookup daemon.lockPath =
        .ok (.file content) := by
  have htried := tried_acquisition hleave files
  rw [h] at htried
  cases htried with
  | refused hfile hkept =>
    rw [life_of_error h]
    exact ⟨_, hfile, hkept⟩

theorem exitCode_life :
    exitCode (daemon.life options start ending others files).1 = 0 ↔
      (∃ lock, (daemon.acquisition others files).1 = .ok lock) ∧
        (∃ config, daemon.reading others (daemon.acquisition others files).2 = .ok config) ∧
        start = .ok () ∧ ending ∈ [.quit, .interrupt, .terminate, .quitSignal] := by
  rw [exitCode_eq_zero_iff]
  rcases h : daemon.acquisition others files with ⟨cause | lock, moment⟩
  · rw [life_of_error h]
    exact iff_of_false nofun nofun
  · rw [life_of_ok h, outcome_eq_ok_iff]
    exact (and_iff_right ⟨lock, rfl⟩).symm

/-- Whatever the files hold, whatever others do to them, and however the tray ends. -/
theorem lived (hleave : Files.LeaveAlone others daemon.lockPath) :
    Lived daemon options start ending others files where
  released hchange _ h := lookup_life_of_ok hleave hchange (Prod.ext h rfl)
  refused _ h := lookup_life_of_refused hleave (Prod.ext h rfl)
  exitCode := exitCode_life

/-! ## A stale lock and a broken configuration -/

/-- A tray with a process number, its lock and its configuration. -/
def seventh : Daemon where
  processes := ⟨7, (· = 7)⟩
  lockPath := ['/', 'l']
  configPath := ['/', 'c']

/-- The lock file of a process that is gone, and a configuration that is none. -/
def leftover : Files :=
  (Files.empty.put ['/', 'l'] (.file (Lock.content 5))).put ['/', 'c'] (.file "none".toUTF8)

/-- Somebody removes the configuration when the lock has been taken. -/
def tidying (n : Nat) (files : Files) : Files :=
  if n = 4 then (files.remove ['/', 'c']).2 else files

theorem leaveAlone_tidying : Files.LeaveAlone tidying ['/', 'l'] := by
  -- The path is short enough for what it names to be a matter of the root and one entry.
  have hlookup : ∀ files : Files, files.lookup ['/', 'l'] =
      if !files.root.search then .error .permissionDenied
      else match files.entry [['l']] with
        | none => .error .notFound
        | some found => .ok found.node := by
    intro files
    have htarget : files.target ['/', 'l'] =
        if !files.root.search then .error .permissionDenied else .ok (.entry [['l']]) := rfl
    have hlook : files.look [['l']] = .ok (files.entry [['l']]) := rfl
    rw [Files.lookup, Files.find, htarget]
    cases files.root.search with
    | false => rfl
    | true =>
      simp only [Bool.not_true, Bool.false_eq_true, if_false, hlook]
      rcases files.entry [['l']] with _ | ⟨_ | _, access⟩
      · rfl
      · rfl
      · rfl
  have hroot : ∀ n files, (tidying n files).root = files.root := by
    intro n files
    rw [tidying]
    split
    · rcases Files.remove_cases ['/', 'c'] files with heq | ⟨_, _, _, heq⟩
      · rw [heq]
      · rw [heq]
        rfl
    · rfl
  have hentry : ∀ n files, (tidying n files).entry [['l']] = files.entry [['l']] := by
    intro n files
    rw [tidying]
    split
    · exact Files.entry_remove_of_ne (by decide)
    · rfl
  refine ⟨fun n files => ?_, fun n files hchange => ?_⟩
  · rw [hlookup, hlookup, hroot, hentry]
  · have hwrite : files.root.write = true := hchange
    exact (congrArg Access.write (hroot n files)).trans hwrite

theorem lived_of_tidying :
    Files.LeaveAlone tidying seventh.lockPath ∧ leftover.mayChange seventh.lockPath.place = true ∧
      (seventh.life {} (.ok ()) .terminate tidying leftover).2.2.lookup seventh.lockPath =
        .error .notFound ∧
      exitCode (seventh.life {} (.ok ()) .terminate tidying leftover).1 = 0 := by
  have hlived : Lived seventh {} (.ok ()) .terminate tidying leftover := lived leaveAlone_tidying
  have hacquired : (seventh.acquisition tidying leftover).1 =
      .ok { path := ['/', 'l'], held := true } := rfl
  have hread : seventh.reading tidying (seventh.acquisition tidying leftover).2 = .ok {} := rfl
  refine ⟨leaveAlone_tidying, rfl, hlived.released rfl _ hacquired, hlived.exitCode.2 ?_⟩
  exact ⟨⟨_, hacquired⟩, ⟨_, hread⟩, rfl, by decide⟩

end Daemon

end VpnTray
