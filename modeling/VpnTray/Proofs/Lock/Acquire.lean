import VpnTray.Lock.Basic
import VpnTray.Proofs.Files.Frame
import VpnTray.Proofs.Text.Number
import VpnTray.Proofs.Text.Utf8

/-!
# Taking a lock

What comes of it when a lock is taken is decided by what the lock file holds at first. If
it names a live process, the lock is refused and nothing changes; otherwise the file is
written anew, which may fail (`acquired`). Whatever comes of it, no other file is lost.

* `Names`: a file names a process; the lock file of a process names it (`names_content`);
* `acquire_eq`: what is done, operation by operation;
* `refused_iff`: when a lock is refused.
-/

namespace VpnTray.Lock

open Text

variable {processes : Processes} {lock : Lock} {files changed : Files} {pid : UInt32}

/-! ## The process that a lock file names -/

/-- A file is a text that has the number of a process in it, with blanks around it and a
    plus sign in front at most. -/
def Names (content : ByteArray) (pid : UInt32) : Prop :=
  ∃ text, Utf8.decode? content = some text ∧
    ∃ digits, Writes digits pid.toNat ∧ (trim text = digits ∨ trim text = '+' :: digits)

theorem owner?_eq_some_iff {text : Text} :
    owner? text = some pid ↔
      ∃ digits, Writes digits pid.toNat ∧ (trim text = digits ∨ trim text = '+' :: digits) := by
  rw [owner?, Option.map_eq_some_iff]
  constructor
  · rintro ⟨n, hread, rfl⟩
    obtain ⟨hn, hwritten⟩ := readBelow?_eq_some_iff.1 hread
    rwa [UInt32.toNat_ofNat_of_lt' hn]
  · intro hwritten
    exact ⟨pid.toNat, readBelow?_eq_some_iff.2 ⟨pid.toNat_lt, hwritten⟩, UInt32.ofNat_toNat⟩

theorem holder?_eq_some_iff {text : Text} :
    holder? processes text = some pid ↔
      owner? text = some pid ∧ pid ≠ 0 ∧ processes.alive pid := by
  rw [holder?, Option.filter_eq_some_iff, runs]
  simp

/-- The lock file of a process names it. -/
theorem names_content (pid : UInt32) : Names (content pid) pid :=
  ⟨_, Utf8.decode?_toUTF8 _, _, writes_decimal _, .inl (trim_decimal _)⟩

/-! ## What is done -/

/-- An operation on files, and more work unless it fails. -/
def andThen (operation : Files → Except IoError Unit × Files)
    (work : Stepped Files (Except Error Lock)) : Stepped Files (Except Error Lock) :=
  Stepped.act operation >>= fun
    | .ok () => work
    | .error cause => pure (.error (.io cause))

/-- Writes the lock file. -/
def writing (processes : Processes) (lock : Lock) : Stepped Files (Except Error Lock) :=
  andThen (Files.write lock.path (content processes.own)) (pure (.ok { lock with held := true }))

/-- Makes the directories of the lock file, and writes it. -/
def making (processes : Processes) (lock : Lock) : Stepped Files (Except Error Lock) :=
  andThen (Files.makeDirectories lock.path) (writing processes lock)

/-- Removes a stale lock file, and goes on with a new one. -/
def removing (processes : Processes) (lock : Lock) : Stepped Files (Except Error Lock) :=
  andThen (Files.remove lock.path) (making processes lock)

/-- Goes on by what was read of the lock file. -/
def deciding (processes : Processes) (lock : Lock) :
    Except IoError Text → Stepped Files (Except Error Lock)
  | .error _ => making processes lock
  | .ok text =>
    match holder? processes text with
    | some pid => pure (.error (.alreadyRunning pid))
    | none => removing processes lock

theorem run_attempt_bind (operation : Files → Except IoError Unit × Files)
    (next : Unit → ExceptT Error (Stepped Files) Lock) :
    (attempt operation >>= next).run = andThen operation (next ()).run := by
  refine congrArg (Stepped.step fun files => (operation files).2) (funext fun files => ?_)
  change ExceptT.bindCont next ((operation files).1.mapError .io) = _
  dsimp only [Stepped.bind]
  rcases (operation files).1 with _ | _
  · rfl
  · rfl

/-- The lock file is read, and what was found decides what is done then. -/
theorem acquire_eq (processes : Processes) (lock : Lock) :
    (lock.acquire processes).run =
      Stepped.get (·.read lock.path) >>= deciding processes lock := by
  -- Whatever was found, what is left may end with these two operations.
  have hmaking : (do
      attempt (Files.makeDirectories lock.path)
      attempt (Files.write lock.path (content processes.own))
      return { lock with held := true } : ExceptT Error (Stepped Files) Lock).run =
        making processes lock := by
    rw [run_attempt_bind, run_attempt_bind]
    rfl
  refine congrArg (Stepped.step id) (funext fun files => ?_)
  change ExceptT.bindCont _ (.ok (files.read lock.path)) = deciding _ _ (files.read lock.path)
  rcases files.read lock.path with cause | text
  · exact hmaking
  · dsimp only [ExceptT.bindCont, deciding]
    cases holder? processes text with
    | some pid => rfl
    | none => exact (run_attempt_bind _ _).trans (congrArg (andThen _) hmaking)

/-! ## What comes of it -/

/-- No live process is named by what is read of a lock file. -/
def Free (processes : Processes) (files : Files) (path : Path) : Prop :=
  ∀ text, files.read path = .ok text → holder? processes text = none

/-- What comes of taking a lock: it is refused, or it fails after some of the operations, or it
    is taken. The lock file can be read then, unless what may be done with it does not allow
    it. -/
inductive Acquired (processes : Processes) (lock : Lock) (files : Files) :
    Except Error Lock × Files → Prop
  | refused {text : Text} {pid : UInt32} (hread : files.read lock.path = .ok text)
    (hholder : holder? processes text = some pid) :
    Acquired processes lock files (.error (.alreadyRunning pid), files)
  | failed {cause : IoError} {changed : Files} (hfree : Free processes files lock.path)
    (hkeeps : Files.KeepsBut lock.path.place files changed)
    (hloosens : Files.Loosens files changed) :
    Acquired processes lock files (.error (.io cause), changed)
  | taken {changed : Files} (hfree : Free processes files lock.path)
    (hkeeps : Files.KeepsBut lock.path.place files changed)
    (hloosens : Files.Loosens files changed)
    (hreadable : files.Legible lock.path →
      changed.Readable lock.path (content processes.own)) :
    Acquired processes lock files (.ok { lock with held := true }, changed)

theorem run_andThen (operation : Files → Except IoError Unit × Files)
    (work : Stepped Files (Except Error Lock)) (files : Files) :
    (andThen operation work).run files =
      match (operation files).1 with
      | .ok () => work.run (operation files).2
      | .error cause => (.error (.io cause), (operation files).2) := by
  rw [andThen, Stepped.run_bind, Stepped.run_act]
  rcases (operation files).1 with _ | _
  · rfl
  · rfl

/-- The operations by which a lock file that is free is written anew. -/
theorem acquired_of_making (hfree : Free processes files lock.path)
    (hkeeps : Files.KeepsBut lock.path.place files changed)
    (hloosens : Files.Loosens files changed) :
    Acquired processes lock files ((making processes lock).run changed) := by
  have hmade := hkeeps.trans (Files.keepsBut_makeDirectories _ lock.path changed)
  have hfreer := hloosens.trans (Files.loosens_makeDirectories lock.path changed)
  rw [making, run_andThen]
  split
  · have hwritten := hmade.trans (Files.keepsBut_write lock.path (content processes.own) _)
    have hstill := hfreer.trans (Files.loosens_write lock.path (content processes.own) _)
    rw [writing, run_andThen]
    split
    · next hwrite =>
      exact .taken hfree hwritten hstill fun hlegible =>
        Files.readable_of_write (Prod.ext hwrite rfl) (hlegible.of_loosens hfreer)
    · exact .failed hfree hwritten hstill
  · exact .failed hfree hmade hfreer

theorem acquired (processes : Processes) (lock : Lock) (files : Files) :
    Acquired processes lock files ((lock.acquire processes).run.run files) := by
  rw [acquire_eq, Stepped.run_bind, Stepped.run_get]
  rcases hread : files.read lock.path with cause | text
  · refine acquired_of_making (fun text htext => ?_) (.refl _ _) (.refl _)
    rw [hread] at htext
    cases htext
  · dsimp only [deciding]
    rcases hholder : holder? processes text with _ | pid
    · have hfree : Free processes files lock.path := by
        intro text' htext
        rw [hread] at htext
        exact Except.ok.inj htext ▸ hholder
      have hremoved := Files.keepsBut_remove lock.path files
      have hloosens := Files.loosens_remove lock.path files
      rw [removing, run_andThen]
      split
      · exact acquired_of_making hfree hremoved hloosens
      · exact .failed hfree hremoved hloosens
    · exact .refused hread hholder

/-- What is read of a lock file names a live process if and only if the file may be read and
    names one. -/
theorem read_holder_iff {path : Path} :
    (∃ text, files.read path = .ok text ∧ holder? processes text = some pid) ↔
      ∃ content, files.Readable path content ∧ Names content pid ∧ pid ≠ 0 ∧
        processes.alive pid := by
  constructor
  · rintro ⟨text, hread, hholder⟩
    obtain ⟨content, hreadable, hdecode⟩ := Files.read_eq_ok_iff.1 hread
    obtain ⟨howner, hruns⟩ := holder?_eq_some_iff.1 hholder
    exact ⟨content, hreadable, ⟨text, hdecode, owner?_eq_some_iff.1 howner⟩, hruns⟩
  · rintro ⟨content, hreadable, ⟨text, hdecode, hwritten⟩, hruns⟩
    exact ⟨text, Files.read_eq_ok_iff.2 ⟨content, hreadable, hdecode⟩,
      holder?_eq_some_iff.2 ⟨owner?_eq_some_iff.2 hwritten, hruns⟩⟩

theorem Free.not_holder {path : Path} (h : Free processes files path) :
    ¬∃ text, files.read path = .ok text ∧ holder? processes text = some pid := by
  rintro ⟨text, hread, hholder⟩
  rw [h text hread] at hholder
  cases hholder

/-- A lock file that is free is not that of a live process, if it can be read. -/
theorem Free.not_readable {path : Path} (h : Free processes files path) (hpid : pid ≠ 0)
    (halive : processes.alive pid) : ¬files.Readable path (content pid) := fun hreadable =>
  h.not_holder (read_holder_iff.2 ⟨_, hreadable, names_content pid, hpid, halive⟩)

/-- A lock is refused if and only if its file may be read and names a live process. -/
theorem refused_iff (processes : Processes) (lock : Lock) (files : Files) (pid : UInt32) :
    ((lock.acquire processes).run.run files).1 = .error (.alreadyRunning pid) ↔
      ∃ content, files.Readable lock.path content ∧ Names content pid ∧ pid ≠ 0 ∧
        processes.alive pid := by
  rw [← read_holder_iff]
  have hacquired := acquired processes lock files
  generalize (lock.acquire processes).run.run files = result at hacquired ⊢
  cases hacquired with
  | refused hread hholder =>
    constructor
    · rintro ⟨⟩
      exact ⟨_, hread, hholder⟩
    · rintro ⟨text, htext, hpid⟩
      obtain rfl := Except.ok.inj (hread.symm.trans htext)
      obtain rfl := Option.some.inj (hholder.symm.trans hpid)
      rfl
  | failed hfree => exact ⟨nofun, fun h => absurd h hfree.not_holder⟩
  | taken hfree => exact ⟨nofun, fun h => absurd h hfree.not_holder⟩

/-- A lock is given back by removing its file, if it was taken. -/
theorem run_release (lock : Lock) (files : Files) :
    lock.release.run files = ({ lock with held := false },
      if lock.held then (files.remove lock.path).2 else files) := by
  rw [release]
  split
  · rfl
  · rfl

end VpnTray.Lock
