import Mathlib.Data.List.Pairwise
import VpnTray.Lock.Handles
import VpnTray.Proofs.Lock.Acquire

/-!
# One lock at a time

A process makes handles on lock files, takes locks by them, gives locks back and drops
handles, in any order. Meanwhile other processes come and go, and other files change, but
nobody else touches a file whose lock is taken (`Reaches`). Then a handle by which a lock
is taken is the only one for its path, and the file names the process (`Inv`), whatever the
files held at first (`single_of_reaches`).

A lock file has to be read before it can be known whose it is, and one that cannot be read is
taken to be nobody's. So it must not be one that can be written but not read (`Legible`):
such a lock is taken again and again (`held_twice`).

The paths have to name different files. Two paths to one file can both be taken when one of
them leads through a directory that is not there yet: its file is looked for in vain, and
the directory is made then.
-/

namespace VpnTray.Handles

variable {handles : Handles} {name : String} {lock : Lock} {files changed : Files}
  {handle : String × Lock}

/-! ## The entries -/

theorem mem_of_find? (h : handles.find? name = some lock) : (name, lock) ∈ handles := by
  obtain ⟨before, after, heq, -⟩ := List.lookup_eq_some_iff.1 h
  rw [heq]
  simp

theorem mem_without : handle ∈ handles.without name ↔ handle ∈ handles ∧ handle.1 ≠ name := by
  rw [without, List.mem_filter, decide_eq_true_iff]

/-! ## What is done with a handle -/

/-- The files after the lock of a name has been given back, if it was taken. -/
def returned (handles : Handles) (name : String) (files : Files) : Files :=
  match handles.find? name with
  | none => files
  | some lock => if lock.held then (files.remove lock.path).2 else files

theorem run_giveBack (handles : Handles) (name : String) (files : Files) :
    (handles.giveBack name).run files =
      ((handles.find? name).map fun lock => { lock with held := false },
        handles.returned name files) := by
  rw [giveBack, returned]
  cases handles.find? name with
  | none => rfl
  | some lock =>
    dsimp only
    rw [Stepped.run_bind, Lock.run_release]
    rfl

/-- What is left of a handle whose lock is given back. -/
def released (handles : Handles) (name : String) : Handles :=
  match handles.find? name with
  | none => handles
  | some lock => handles.put name { lock with held := false }

variable {processes : Processes}

theorem run_make (path : Path) :
    (handles.step processes name (.make path)).run files =
      ((.ok (), handles.put name { path }), handles.returned name files) := by
  rw [step, Stepped.run_bind, Stepped.run_discard, run_giveBack]
  rfl

theorem run_drop :
    (handles.step processes name .drop).run files =
      ((.ok (), handles.without name), handles.returned name files) := by
  rw [step, Stepped.run_bind, Stepped.run_discard, run_giveBack]
  rfl

theorem run_release :
    (handles.step processes name .release).run files =
      ((.ok (), handles.released name), handles.returned name files) := by
  rw [step, Stepped.run_bind, run_giveBack, released]
  cases handles.find? name with
  | none => rfl
  | some lock => rfl

theorem run_acquire_of_none (h : handles.find? name = none) :
    (handles.step processes name .acquire).run files = ((.ok (), handles), files) := by
  rw [step, h]
  rfl

theorem run_acquire_of_some (h : handles.find? name = some lock) :
    (handles.step processes name .acquire).run files =
      match (lock.acquire processes).run.run files with
      | (.error cause, changed) => ((.error cause, handles), changed)
      | (.ok lock, changed) => ((.ok (), handles.put name lock), changed) := by
  rw [step, h]
  dsimp only
  rw [Stepped.run_bind]
  rcases (lock.acquire processes).run.run files with ⟨_ | _, changed⟩
  · rfl
  · rfl

/-! ## Turns -/

/-- The handles of a process, and the files. -/
structure Setting where
  handles : Handles
  files : Files

namespace Setting

/-- What is answered when something is done with the handle of a name. -/
def answer (setting : Setting) (processes : Processes) (name : String) (use : Use) :
    Except Error Unit :=
  ((setting.handles.step processes name use).run setting.files).1.1

/-- The handles and the files after something has been done with the handle of a name. -/
def after (setting : Setting) (processes : Processes) (name : String) (use : Use) : Setting where
  handles := ((setting.handles.step processes name use).run setting.files).1.2
  files := ((setting.handles.step processes name use).run setting.files).2

/-- What can have happened since a setting: a live process has used its handles, where the
    handles that were made have a path among `paths`, and other files have changed, but none
    whose lock was taken, nor may one be written from then on that cannot be read. Which other
    processes are live may change at any time. -/
inductive Reaches (own : UInt32) (paths : Path → Prop) (start : Setting) : Setting → Prop
  | refl : Reaches own paths start start
  | use {setting : Setting} (h : Reaches own paths start setting) (alive : UInt32 → Bool)
    (halive : alive own) (name : String) (use : Use)
    (hpath : ∀ path, use = .make path → paths path) :
    Reaches own paths start (setting.after ⟨own, alive⟩ name use)
  | elsewhere {setting : Setting} (h : Reaches own paths start setting) (files : Files)
    (hsame : ∀ handle ∈ setting.handles, handle.2.held →
      files.find handle.2.path = setting.files.find handle.2.path)
    (hlegible : ∀ path, paths path → setting.files.Legible path → files.Legible path) :
    Reaches own paths start { setting with files }

/-! ## What every turn keeps -/

/-- Different paths lead to different places. -/
def Apart (paths : Path → Prop) : Prop :=
  ∀ path other, paths path → paths other → path.place = other.place → path = other

/-- What can be written at any of some paths can be read. -/
def Legible (paths : Path → Prop) (setting : Setting) : Prop :=
  ∀ path, paths path → setting.files.Legible path

/-- What every turn keeps. -/
structure Inv (own : UInt32) (paths : Path → Prop) (setting : Setting) : Prop where
  legible : setting.Legible paths
  paths : ∀ handle ∈ setting.handles, paths handle.2.path
  once : setting.handles.Pairwise fun handle other =>
    handle.2.held → other.2.held → handle.2.path ≠ other.2.path
  content : ∀ handle ∈ setting.handles, handle.2.held →
    setting.files.Readable handle.2.path (Lock.content own)

variable {own : UInt32} {paths : Path → Prop} {setting : Setting}

/-- Two handles by which locks are taken have different paths. -/
theorem Inv.path_ne (h : Inv own paths setting) {handle other : String × Lock}
    (hhandle : handle ∈ setting.handles) (hother : other ∈ setting.handles)
    (hne : handle ≠ other) (hheld : handle.2.held) (hheldOther : other.2.held) :
    handle.2.path ≠ other.2.path := by
  have : Std.Symm fun handle other : String × Lock =>
      handle.2.held → other.2.held → handle.2.path ≠ other.2.path :=
    ⟨fun _ _ hrel hheld hother => (hrel hother hheld).symm⟩
  exact h.once.forall hhandle hother hne hheld hheldOther

/-- A lock file that is free is none of those whose locks are taken. -/
theorem Inv.path_ne_of_free (h : Inv own paths setting) {alive : UInt32 → Bool} (hown : own ≠ 0)
    (halive : alive own) (hfree : Lock.Free ⟨own, alive⟩ setting.files lock.path)
    (hhandle : handle ∈ setting.handles) (hheld : handle.2.held) :
    handle.2.path ≠ lock.path := by
  intro heq
  exact hfree.not_readable hown halive (heq ▸ h.content handle hhandle hheld)

/-- A lock file that is free may be written or removed without harm to those whose locks are
    taken. -/
theorem Inv.readable_of_keepsBut (h : Inv own paths setting) (hapart : Apart paths)
    {alive : UInt32 → Bool} (hown : own ≠ 0) (halive : alive own)
    (hfree : Lock.Free ⟨own, alive⟩ setting.files lock.path) (hlock : paths lock.path)
    (hkeeps : Files.KeepsBut lock.path.place setting.files changed)
    (hhandle : handle ∈ setting.handles) (hheld : handle.2.held) :
    changed.Readable handle.2.path (Lock.content own) := by
  refine hkeeps.readable (fun hplace => ?_) (h.content handle hhandle hheld)
  exact h.path_ne_of_free hown halive hfree hhandle hheld
    (hapart _ _ (h.paths handle hhandle) hlock hplace)

/-- Giving the lock of a name back leaves the files of the other handles. -/
theorem Inv.readable_returned (h : Inv own paths setting) (hapart : Apart paths)
    (hhandle : handle ∈ setting.handles) (hname : handle.1 ≠ name) (hheld : handle.2.held) :
    (setting.handles.returned name setting.files).Readable handle.2.path (Lock.content own) := by
  have hreadable := h.content handle hhandle hheld
  rw [returned]
  split
  · exact hreadable
  · next lock hfind =>
    split
    · next htaken =>
      have hmem := mem_of_find? hfind
      refine (Files.keepsBut_remove lock.path setting.files).readable (fun hplace => ?_) hreadable
      refine h.path_ne hhandle hmem ?_ hheld htaken ?_
      · rintro rfl
        exact hname rfl
      · exact hapart _ _ (h.paths handle hhandle) (h.paths _ hmem) hplace
    · exact hreadable

theorem Legible.of_loosens (h : setting.Legible paths)
    (hloosens : Files.Loosens setting.files changed) (handles : Handles) :
    Legible paths ⟨handles, changed⟩ :=
  fun path hpath => (h path hpath).of_loosens hloosens

theorem loosens_returned (handles : Handles) (name : String) (files : Files) :
    Files.Loosens files (handles.returned name files) := by
  rw [returned]
  split
  · exact .refl files
  · split
    · exact Files.loosens_remove _ files
    · exact .refl files

/-- The handles of other names stay as they are. -/
theorem Inv.without (h : Inv own paths setting) {files : Files}
    (hloosens : Files.Loosens setting.files files)
    (hfiles : ∀ handle ∈ setting.handles, handle.1 ≠ name → handle.2.held →
      files.Readable handle.2.path (Lock.content own)) :
    Inv own paths ⟨setting.handles.without name, files⟩ where
  legible := h.legible.of_loosens hloosens _
  paths handle hhandle := h.paths handle (mem_without.1 hhandle).1
  once := h.once.filter _
  content handle hhandle := hfiles handle (mem_without.1 hhandle).1 (mem_without.1 hhandle).2

/-- A name may get another handle, if its lock is not taken or else its file is another than
    those of the other handles. -/
theorem Inv.put (h : Inv own paths setting) {files : Files} (hpath : paths lock.path)
    (hloosens : Files.Loosens setting.files files)
    (hfiles : ∀ handle ∈ setting.handles, handle.1 ≠ name → handle.2.held →
      files.Readable handle.2.path (Lock.content own))
    (htaken : lock.held → files.Readable lock.path (Lock.content own) ∧
      ∀ handle ∈ setting.handles, handle.2.held → handle.2.path ≠ lock.path) :
    Inv own paths ⟨setting.handles.put name lock, files⟩ :=
  have hothers := h.without hloosens hfiles
  { legible := hothers.legible
    paths := List.forall_mem_cons.2 ⟨hpath, hothers.paths⟩
    once := by
      refine List.pairwise_cons.2 ⟨fun handle hhandle hheld hother => ?_, hothers.once⟩
      exact ((htaken hheld).2 handle (mem_without.1 hhandle).1 hother).symm
    content := List.forall_mem_cons.2 ⟨fun hheld => (htaken hheld).1, hothers.content⟩ }

/-- Whatever is done with a handle, what every turn keeps is kept. -/
theorem Inv.after (h : Inv own paths setting) (hown : own ≠ 0) (hapart : Apart paths)
    {alive : UInt32 → Bool} (halive : alive own) {use : Use}
    (hpath : ∀ path, use = .make path → paths path) :
    Inv own paths (setting.after ⟨own, alive⟩ name use) := by
  have hreturned : ∀ handle ∈ setting.handles, handle.1 ≠ name → handle.2.held →
      (setting.handles.returned name setting.files).Readable handle.2.path (Lock.content own) :=
    fun _ hhandle hname hheld => h.readable_returned hapart hhandle hname hheld
  have hloosens := loosens_returned setting.handles name setting.files
  cases use with
  | make path =>
    rw [Setting.after, run_make]
    exact h.put (hpath path rfl) hloosens hreturned nofun
  | drop =>
    rw [Setting.after, run_drop]
    exact h.without hloosens hreturned
  | release =>
    rw [Setting.after, run_release, released]
    split
    · next hfind =>
      rw [returned, hfind]
      exact h
    · next lock hfind => exact h.put (h.paths _ (mem_of_find? hfind)) hloosens hreturned nofun
  | acquire =>
    rcases hfind : setting.handles.find? name with _ | lock
    · rw [Setting.after, run_acquire_of_none hfind]
      exact h
    have hlock := h.paths _ (mem_of_find? hfind)
    rw [Setting.after, run_acquire_of_some hfind]
    have hacquired := Lock.acquired ⟨own, alive⟩ lock setting.files
    generalize (lock.acquire ⟨own, alive⟩).run.run setting.files = result at hacquired ⊢
    cases hacquired with
    | refused => exact h
    | failed hfree hkeeps hloosens =>
      exact ⟨h.legible.of_loosens hloosens _, h.paths, h.once, fun _ hhandle =>
        h.readable_of_keepsBut hapart hown halive hfree hlock hkeeps hhandle⟩
    | taken hfree hkeeps hloosens hreadable =>
      refine h.put hlock hloosens (fun _ hhandle _ => ?_) fun _ =>
        ⟨hreadable (h.legible _ hlock), fun _ hhandle => ?_⟩
      · exact h.readable_of_keepsBut hapart hown halive hfree hlock hkeeps hhandle
      · exact h.path_ne_of_free hown halive hfree hhandle

theorem Inv.elsewhere (h : Inv own paths setting)
    (hsame : ∀ handle ∈ setting.handles, handle.2.held →
      files.find handle.2.path = setting.files.find handle.2.path)
    (hlegible : ∀ path, paths path → setting.files.Legible path → files.Legible path) :
    Inv own paths { setting with files } where
  legible path hpath := hlegible path hpath (h.legible path hpath)
  paths := h.paths
  once := h.once
  content handle hhandle hheld := by
    obtain ⟨access, hfind, hread⟩ := h.content handle hhandle hheld
    exact ⟨access, (hsame handle hhandle hheld).trans hfind, hread⟩

theorem Reaches.inv {start : Setting} (h : Reaches own paths start setting) (hown : own ≠ 0)
    (hapart : Apart paths) (hstart : Inv own paths start) : Inv own paths setting := by
  induction h with
  | refl => exact hstart
  | use _ alive halive name use hpath ih => exact ih.after hown hapart halive hpath
  | elsewhere _ files hsame hlegible ih => exact ih.elsewhere hsame hlegible

/-- Where no lock is taken, there is nothing to keep. -/
theorem inv_of_not_held (hlegible : setting.Legible paths)
    (hpaths : ∀ handle ∈ setting.handles, paths handle.2.path)
    (hheld : ∀ handle ∈ setting.handles, handle.2.held = false) : Inv own paths setting where
  legible := hlegible
  paths := hpaths
  once := List.pairwise_of_forall_mem_list fun _ hhandle _ _ h =>
    absurd h (Bool.eq_false_iff.1 (hheld _ hhandle))
  content _ hhandle h := absurd h (Bool.eq_false_iff.1 (hheld _ hhandle))

/-! ## Single instances -/

theorem length_filter_le_one {α : Type} {R : α → α → Prop} {p : α → Bool} {l : List α}
    (h : l.Pairwise R) (hp : ∀ a b, p a → p b → ¬R a b) : (l.filter p).length ≤ 1 := by
  have hpairwise := h.filter p
  have hmem : ∀ a ∈ l.filter p, p a := fun a ha => (List.mem_filter.1 ha).2
  generalize l.filter p = found at hpairwise hmem ⊢
  rcases found with _ | ⟨a, _ | ⟨b, rest⟩⟩
  · exact Nat.zero_le 1
  · exact Nat.le_refl 1
  · have hrel := List.rel_of_pairwise_cons hpairwise List.mem_cons_self
    exact absurd hrel (hp a b (hmem a (by simp)) (hmem b (by simp)))

/-- What is true of the handles of a live process on lock files with some paths. -/
structure Single (own : UInt32) (paths : Path → Prop) (start setting : Setting) : Prop where
  /-- For each path, the lock is taken by at most one handle, if at first no lock file could be
      written but not read. -/
  once : start.Legible paths → ∀ path,
    (setting.handles.filter fun handle => handle.2.held ∧ handle.2.path = path).length ≤ 1
  /-- The file of a lock that is taken holds the number of the process and a line end. -/
  content : start.Legible paths → ∀ name lock, (name, lock) ∈ setting.handles → lock.held →
    setting.files.lookup lock.path =
      .ok (.file (String.ofList (Text.decimal own.toNat ++ ['\n'])).toUTF8)
  /-- A lock is refused if and only if its file may be read and names a live process. -/
  refused : ∀ alive name lock pid, setting.handles.find? name = some lock →
    (setting.answer ⟨own, alive⟩ name .acquire = .error (.alreadyRunning pid) ↔
      ∃ content, setting.files.Readable lock.path content ∧ Lock.Names content pid ∧
        pid ≠ 0 ∧ alive pid)
  /-- When a lock cannot be taken, the handles stay as they are. -/
  failed : ∀ alive name cause, setting.answer ⟨own, alive⟩ name .acquire = .error cause →
    (setting.after ⟨own, alive⟩ name .acquire).handles = setting.handles
  /-- When a lock is refused, the files stay as they are. -/
  unchanged : ∀ alive name pid,
    setting.answer ⟨own, alive⟩ name .acquire = .error (.alreadyRunning pid) →
    (setting.after ⟨own, alive⟩ name .acquire).files = setting.files
  /-- A handle by which no lock is taken is released, dropped or replaced without any change to
      the files. -/
  idle : ∀ alive name use, use ≠ .acquire →
    (∀ lock, setting.handles.find? name = some lock → lock.held = false) →
    (setting.after ⟨own, alive⟩ name use).files = setting.files

theorem answer_acquire {processes : Processes} (h : setting.handles.find? name = some lock) :
    setting.answer processes name .acquire =
      ((lock.acquire processes).run.run setting.files).1.map fun _ => () := by
  rw [answer, run_acquire_of_some h]
  rcases (lock.acquire processes).run.run setting.files with ⟨_ | _, changed⟩
  · rfl
  · rfl

theorem handles_after_of_error {processes : Processes} {cause : Error}
    (h : setting.answer processes name .acquire = .error cause) :
    (setting.after processes name .acquire).handles = setting.handles := by
  rcases hfind : setting.handles.find? name with _ | lock
  · rw [after, run_acquire_of_none hfind]
  · rw [answer_acquire hfind] at h
    rw [after, run_acquire_of_some hfind]
    generalize (lock.acquire processes).run.run setting.files = result at h ⊢
    rcases result with ⟨_ | _, changed⟩
    · rfl
    · cases h

theorem files_after_of_refused {processes : Processes} {pid : UInt32}
    (h : setting.answer processes name .acquire = .error (.alreadyRunning pid)) :
    (setting.after processes name .acquire).files = setting.files := by
  rcases hfind : setting.handles.find? name with _ | lock
  · rw [after, run_acquire_of_none hfind]
  · rw [answer_acquire hfind] at h
    rw [after, run_acquire_of_some hfind]
    have hacquired := Lock.acquired processes lock setting.files
    generalize (lock.acquire processes).run.run setting.files = result at h hacquired ⊢
    cases hacquired with
    | refused => rfl
    | failed => cases h
    | taken => cases h

theorem files_after_of_not_held {processes : Processes} {use : Use} (huse : use ≠ .acquire)
    (h : ∀ lock, setting.handles.find? name = some lock → lock.held = false) :
    (setting.after processes name use).files = setting.files := by
  have hreturned : setting.handles.returned name setting.files = setting.files := by
    rw [returned]
    split
    · rfl
    · next lock hfind => rw [if_neg (Bool.eq_false_iff.1 (h lock hfind))]
  cases use with
  | make path => rw [after, run_make, hreturned]
  | acquire => exact absurd rfl huse
  | release => rw [after, run_release, hreturned]
  | drop => rw [after, run_drop, hreturned]

/-- Whatever a live process does with its handles on lock files, each lock is taken by one of
    them at most, unless its file can be written but not read. -/
theorem single_of_reaches {start : Setting} (hown : own ≠ 0) (hapart : Apart paths)
    (hpaths : ∀ handle ∈ start.handles, paths handle.2.path)
    (hheld : ∀ handle ∈ start.handles, handle.2.held = false)
    (h : Reaches own paths start setting) : Single own paths start setting where
  once hlegible path := by
    have hinv := h.inv hown hapart (inv_of_not_held hlegible hpaths hheld)
    refine length_filter_le_one hinv.once ?_
    simp only [decide_eq_true_eq]
    rintro handle other ⟨hhandle, rfl⟩ ⟨hother, hpath⟩ hne
    exact hne hhandle hother hpath.symm
  content hlegible name lock hmem hlock :=
    have hinv := h.inv hown hapart (inv_of_not_held hlegible hpaths hheld)
    (hinv.content (name, lock) hmem hlock).lookup_eq
  refused alive name lock pid hfind := by
    rw [answer_acquire hfind, ← Lock.refused_iff ⟨own, alive⟩]
    rcases ((lock.acquire ⟨own, alive⟩).run.run setting.files).1 with cause | taken
    · simp [Except.map]
    · simp [Except.map]
  failed _ _ _ := handles_after_of_error
  unchanged _ _ _ := files_after_of_refused
  idle _ _ _ := files_after_of_not_held

/-- Two handles on one path, and a file at it. -/
def twoHandles (access : Access) : Setting where
  handles := [("a", { path := ['/', 'l'] }), ("b", { path := ['/', 'l'] })]
  files := Files.empty.put ['/', 'l'] (.file (Lock.content 0)) access

/-- A stale lock file is replaced, and then a second handle is refused. -/
theorem single_of_stale :
    ∃ setting, (twoHandles {}).Legible (· = ['/', 'l']) ∧ setting.handles.held = ["a"] ∧
      Single 7 (· = ['/', 'l']) (twoHandles {}) setting ∧
      setting.answer ⟨7, (· = 7)⟩ "b" .acquire = .error (.alreadyRunning 7) := by
  have hreaches : Reaches 7 (· = ['/', 'l']) (twoHandles {})
      ((twoHandles {}).after ⟨7, (· = 7)⟩ "a" .acquire) :=
    .use .refl (· = 7) rfl "a" .acquire nofun
  have hhandles : ((twoHandles {}).after ⟨7, (· = 7)⟩ "a" .acquire).handles =
      [("a", { path := ['/', 'l'], held := true }), ("b", { path := ['/', 'l'] })] := by
    decide +kernel
  have hsingle : Single 7 (· = ['/', 'l']) (twoHandles {})
      ((twoHandles {}).after ⟨7, (· = 7)⟩ "a" .acquire) := by
    refine single_of_reaches (by decide) ?apart ?paths ?free hreaches
    case apart => exact fun _ _ hpath hother _ => hpath.trans hother.symm
    case paths => exact List.forall_mem_cons.2 ⟨rfl, List.forall_mem_cons.2 ⟨rfl, nofun⟩⟩
    case free => exact List.forall_mem_cons.2 ⟨rfl, List.forall_mem_cons.2 ⟨rfl, nofun⟩⟩
  have hlegible : (twoHandles {}).Legible (· = ['/', 'l']) := by
    rintro path rfl
    exact fun _ => rfl
  have hreadable : ((twoHandles {}).after ⟨7, (· = 7)⟩ "a" .acquire).files.Readable
      ['/', 'l'] (Lock.content 7) := ⟨{}, rfl, rfl⟩
  refine ⟨_, hlegible, by rw [hhandles]; rfl, hsingle, ?_⟩
  refine (hsingle.refused (· = 7) "b" { path := ['/', 'l'] } 7 (by rw [hhandles]; rfl)).2 ?_
  exact ⟨_, hreadable, Lock.names_content 7, by decide, rfl⟩

/-- If the lock file can be written but not read, nobody sees whose it is, and a lock that is taken
    is taken once more. -/
theorem held_twice :
    ∃ setting, Reaches 7 (· = ['/', 'l']) (twoHandles { read := false }) setting ∧
      setting.handles.held = ["b", "a"] ∧
      (setting.handles.filter fun handle =>
        handle.2.held ∧ handle.2.path = ['/', 'l']).length = 2 := by
  let first := (twoHandles { read := false }).after ⟨7, (· = 7)⟩ "a" .acquire
  have hfirst : Reaches 7 (· = ['/', 'l']) (twoHandles { read := false }) first :=
    .use .refl (· = 7) rfl "a" .acquire nofun
  have hsecond : Reaches 7 (· = ['/', 'l']) (twoHandles { read := false })
      (first.after ⟨7, (· = 7)⟩ "b" .acquire) :=
    .use hfirst (· = 7) rfl "b" .acquire nofun
  have hhandles : (first.after ⟨7, (· = 7)⟩ "b" .acquire).handles =
      [("b", { path := ['/', 'l'], held := true }), ("a", { path := ['/', 'l'], held := true })] := by
    decide +kernel
  refine ⟨_, hsecond, ?_, ?_⟩
  · rw [hhandles]
    rfl
  · rw [hhandles]
    rfl

end Setting

end VpnTray.Handles
