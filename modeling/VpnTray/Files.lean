import VpnTray.Error
import VpnTray.Text.Utf8

/-!
# Files

The files that the tray reads and writes lie in directories. A path leads to a file
name by name: each name on the way has to be that of a directory, `.` stays where it
is, and `..` goes back to the directory outside. There are no links, and a relative
path starts at the root like any other.

What the tray may do is said for each file and each directory by itself (`Access`). A
file is read or written only by who may read or write it, and something comes into a
directory or goes out of it only if the directory may be written; a path leads through
a directory, or into it, only if that may be searched. What the tray makes itself it
may use in every way. Whatever is not allowed is refused as `permissionDenied`, and so
nothing is changed. Neither the owners of files nor other users are told apart, and no
operation gives or takes permissions.

* `Files.find`, `Files.lookup`: what a path names;
* `Files.read`, `Files.write`, `Files.remove`: one step each, that either does all of
  its work or fails and changes nothing;
* `Files.makeDirectories`: makes the directories that a path lies in. If it fails, the
  outer ones may have been made;
* `lookup_of_write`: a file that was written has the content that was written.
-/

namespace VpnTray

/-- A file or a directory. -/
inductive Node
  | file (content : ByteArray)
  | directory

/-- What the tray may do with a file or a directory. To write a directory is to make and
    to remove what lies in it, and to search it is to follow a path into it. -/
structure Access where
  read : Bool := true
  write : Bool := true
  search : Bool := true
deriving DecidableEq, Repr

/-- What lies at a place, and what may be done with it. -/
structure Entry where
  node : Node
  access : Access := {}

/-- Where something lies: its name, and before it those of the directories that it lies
    in, innermost first. The root has no name. -/
abbrev Place := List Text

/-- The files and directories, by their places, and what may be done with the root. -/
structure Files where
  entry : Place → Option Entry
  root : Access := {}

/-- No files at all. -/
def Files.empty : Files := { entry := fun _ => none }

/-- What some names lead to. -/
inductive Target
  /-- A name in a directory, whatever lies there. -/
  | entry (place : Place)
  /-- A directory, by no name of its own. -/
  | directory (place : Place)

/-- The greatest length of a name, in bytes. -/
def maxName : Nat := 255

/-- The greatest length of a path, in bytes. -/
def maxPath : Nat := 4095

namespace Files

/-- The files with something else at a place. -/
def set (files : Files) (place : Place) (entry : Option Entry) : Files :=
  { files with entry := fun other => if other = place then entry else files.entry other }

/-- What may be done with what lies at a place. Where nothing lies, nothing is forbidden. -/
def access (files : Files) : Place → Access
  | [] => files.root
  | name :: outer => (files.entry (name :: outer)).elim {} (·.access)

/-! ## Following paths -/

/-- What lies at a place, if its name can be one. -/
def look (files : Files) : Place → Except IoError (Option Entry)
  | [] => .ok (some ⟨.directory, files.root⟩)
  | name :: outer =>
    if maxName < name.byteSize then .error .nameTooLong else .ok (files.entry (name :: outer))

/-- The directory that some names lead to from another one. -/
def walk (files : Files) (place : Place) : List Text → Except IoError Place
  | [] => .ok place
  | name :: names =>
    if !(files.access place).search then .error .permissionDenied
    else if name = ['.'] then files.walk place names
    else if name = ['.', '.'] then files.walk place.tail names
    else
      match files.look (name :: place) with
      | .error cause => .error cause
      | .ok none => .error .notFound
      | .ok (some ⟨.file _, _⟩) => .error .notADirectory
      | .ok (some ⟨.directory, _⟩) => files.walk (name :: place) names

/-- What a last name in a directory leads to. -/
def last (files : Files) (outer : Place) (name : Text) : Except IoError Target :=
  if !(files.access outer).search then .error .permissionDenied
  else if name = ['.'] then .ok (.directory outer)
  else if name = ['.', '.'] then .ok (.directory outer.tail)
  else .ok (.entry (name :: outer))

/-- What a path names, whether or not something is there. -/
def target (files : Files) (path : Path) : Except IoError Target :=
  if path.any (· = '\x00') then .error .zeroInPath
  else if maxPath < path.byteSize then .error .nameTooLong
  else
    match path.names.getLast? with
    | none => .ok (.directory [])
    | some name => (files.walk [] path.names.dropLast).bind fun outer => files.last outer name

/-- What a path names, and what may be done with it. -/
def find (files : Files) (path : Path) : Except IoError Entry :=
  match files.target path with
  | .error cause => .error cause
  | .ok (.directory place) => .ok ⟨.directory, files.access place⟩
  | .ok (.entry place) =>
    match files.look place with
    | .error cause => .error cause
    | .ok none => .error .notFound
    | .ok (some ⟨.directory, access⟩) => .ok ⟨.directory, access⟩
    | .ok (some ⟨.file content, access⟩) =>
      if path.endsInSlash then .error .notADirectory else .ok ⟨.file content, access⟩

/-- What a path names. -/
def lookup (files : Files) (path : Path) : Except IoError Node :=
  (files.find path).map (·.node)

/-! ## Operations -/

/-- The text of a file. -/
def read (files : Files) (path : Path) : Except IoError Text :=
  match files.find path with
  | .error cause => .error cause
  | .ok entry =>
    if !entry.access.read then .error .permissionDenied
    else
      match entry.node with
      | .directory => .error .isADirectory
      | .file content =>
        match Text.Utf8.decode? content with
        | none => .error .invalidUtf8
        | some text => .ok text

/-- Something may come into the directory of a place, or go out of it. -/
def mayChange (files : Files) (place : Place) : Bool := (files.access place.tail).write

/-- Removes a file. -/
def remove (path : Path) (files : Files) : Except IoError Unit × Files :=
  match files.target path with
  | .error cause => (.error cause, files)
  | .ok (.directory _) => (.error .isADirectory, files)
  | .ok (.entry place) =>
    match files.look place with
    | .error cause => (.error cause, files)
    | .ok none => (.error .notFound, files)
    | .ok (some ⟨.directory, _⟩) =>
      if path.endsInSlash || files.mayChange place then (.error .isADirectory, files)
      else (.error .permissionDenied, files)
    | .ok (some ⟨.file _, _⟩) =>
      if path.endsInSlash then (.error .notADirectory, files)
      else if files.mayChange place then (.ok (), files.set place none)
      else (.error .permissionDenied, files)

/-- Writes a file, which is made or replaced. A file that is replaced keeps what may be
    done with it. -/
def write (path : Path) (content : ByteArray) (files : Files) : Except IoError Unit × Files :=
  match files.target path with
  | .error cause => (.error cause, files)
  | .ok (.directory _) => (.error .isADirectory, files)
  | .ok (.entry place) =>
    if path.endsInSlash then (.error .isADirectory, files)
    else
      match files.look place with
      | .error cause => (.error cause, files)
      | .ok (some ⟨.directory, _⟩) => (.error .isADirectory, files)
      | .ok (some ⟨.file _, access⟩) =>
        if access.write then (.ok (), files.set place (some ⟨.file content, access⟩))
        else (.error .permissionDenied, files)
      | .ok none =>
        if files.mayChange place then (.ok (), files.set place (some ⟨.file content, {}⟩))
        else (.error .permissionDenied, files)

/-- The files with a new directory. -/
def makeDirectory (files : Files) (path : Path) : Except IoError Files :=
  match files.target path with
  | .error cause => .error cause
  | .ok (.directory _) => .error .fileExists
  | .ok (.entry place) =>
    match files.look place with
    | .error cause => .error cause
    | .ok (some _) => .error .fileExists
    | .ok none =>
      if files.mayChange place then .ok (files.set place (some ⟨.directory, {}⟩))
      else .error .permissionDenied

/-- A path names a directory. -/
def isDirectory (files : Files) (path : Path) : Bool :=
  files.lookup path matches .ok .directory

/-- Makes a directory, unless it is there. -/
def ensureDirectory (path : Path) (files : Files) : Except IoError Unit × Files :=
  match files.makeDirectory path with
  | .ok changed => (.ok (), changed)
  | .error cause => (if files.isDirectory path then .ok () else .error cause, files)

/-- Makes the first of some directories, of which each lies in the next one, and before it
    the others as far as they are not there. -/
def ensureDirectories : List Path → Files → Except IoError Unit × Files
  | [], files => (.ok (), files)
  | path :: outer, files =>
    match ensureDirectory path files with
    | (.error .notFound, _) =>
      match ensureDirectories outer files with
      | (.ok (), files) => ensureDirectory path files
      | failed => failed
    | outcome => outcome

/-- Makes the directories that a path lies in, unless they are there. -/
def makeDirectories (path : Path) (files : Files) : Except IoError Unit × Files :=
  ensureDirectories path.above files

end Files

/-- The place that a path leads to if there are directories on the way. -/
def Path.place (path : Path) : Place :=
  path.names.foldl (fun place name =>
    if name = ['.'] then place else if name = ['.', '.'] then place.tail else name :: place) []

/-- The files with something where a path leads, and directories on the way. -/
def Files.put (path : Path) (node : Node) (files : Files) (access : Access := {}) : Files :=
  { files with
    entry := fun place =>
      if place = path.place then some ⟨node, access⟩
      else if place.isSuffixOf path.place then some ⟨.directory, {}⟩
      else files.entry place }

namespace Files

/-! ## What is written is found -/

@[simp] theorem entry_set_self (files : Files) (place : Place) (entry : Option Entry) :
    (files.set place entry).entry place = entry := by
  simp [set]

@[simp] theorem entry_set_of_ne {files : Files} {place other : Place} {entry : Option Entry}
    (h : other ≠ place) : (files.set place entry).entry other = files.entry other := by
  simp [set, h]

theorem access_set_of_ne {files : Files} {place other : Place} {entry : Option Entry}
    (h : other ≠ place) : (files.set place entry).access other = files.access other := by
  cases other with
  | nil => rfl
  | cons name outer => rw [access, access, entry_set_of_ne h]

theorem look_set_of_ne {files : Files} {place other : Place} {entry : Option Entry}
    (h : other ≠ place) : (files.set place entry).look other = files.look other := by
  cases other with
  | nil => rfl
  | cons name outer => rw [look, look, entry_set_of_ne h]

/-- No directory lies at a place. -/
def NoDirectory (files : Files) (place : Place) : Prop :=
  ∀ access, files.entry place ≠ some ⟨.directory, access⟩

/-- A walk sees only directories, so that it is the same when something else changes. -/
theorem walk_set {files : Files} {place : Place} {entry : Option Entry}
    (hplace : files.NoDirectory place) {start stop : Place} {names : List Text}
    (hstart : ∀ outer, outer <:+ start →
      (files.set place entry).access outer = files.access outer)
    (h : files.walk start names = .ok stop) :
    (files.set place entry).walk start names = .ok stop ∧
      (files.set place entry).access stop = files.access stop := by
  fun_induction walk files start names with
  | case1 start =>
    obtain rfl := Except.ok.inj h
    exact ⟨h, hstart start (List.suffix_refl start)⟩
  | case2 => cases h
  | case3 start names hsearch ih =>
    rw [walk, hstart start (List.suffix_refl start), if_neg hsearch, if_pos rfl]
    exact ih hstart h
  | case4 start names hsearch hdot ih =>
    rw [walk, hstart start (List.suffix_refl start), if_neg hsearch, if_neg hdot, if_pos rfl]
    exact ih (fun outer houter => hstart outer (houter.trans (List.tail_suffix start))) h
  | case5 => cases h
  | case6 => cases h
  | case7 => cases h
  | case8 start name names hsearch hdot hdots access hlook ih =>
    have hne : name :: start ≠ place := by
      rintro rfl
      simp only [look] at hlook
      split at hlook
      · cases hlook
      · exact hplace access (Except.ok.inj hlook)
    rw [walk, hstart start (List.suffix_refl start), if_neg hsearch, if_neg hdot, if_neg hdots,
      look_set_of_ne hne, hlook]
    refine ih (fun outer houter => ?_) h
    rcases List.suffix_cons_iff.1 houter with rfl | houter
    · exact access_set_of_ne hne
    · exact hstart outer houter

theorem target_set {files : Files} {place : Place} {entry : Option Entry} {path : Path}
    {target : Target} (hplace : files.NoDirectory place) (h : files.target path = .ok target) :
    (files.set place entry).target path = .ok target := by
  have hroot : ∀ outer, outer <:+ [] →
      (files.set place entry).access outer = files.access outer := by
    intro outer houter
    obtain rfl := List.suffix_nil.1 houter
    rfl
  unfold Files.target at h ⊢
  split at h
  · cases h
  · next hzero =>
    split at h
    · cases h
    · next hlength =>
      rw [if_neg hzero, if_neg hlength]
      cases hlast : path.names.getLast? with
      | none => rwa [hlast] at h
      | some name =>
        rw [hlast] at h
        cases hwalk : files.walk [] path.names.dropLast with
        | error cause => rw [hwalk] at h; cases h
        | ok outer =>
          obtain ⟨hwalked, haccess⟩ := walk_set hplace hroot hwalk
          rw [hwalk] at h
          simp only [hwalked, Except.bind, last, haccess]
          exact h

/-- What lies at a place that is no directory is seen there, and so is what comes there. -/
theorem look_eq {files : Files} {place : Place} {found : Option Entry}
    (h : files.look place = .ok found) (hfound : ∀ access, found ≠ some ⟨.directory, access⟩) :
    files.entry place = found ∧ ∀ entry, (files.set place entry).look place = .ok entry := by
  cases place with
  | nil => exact absurd (Except.ok.inj h).symm (hfound _)
  | cons name outer =>
    rw [look] at h
    split at h
    · cases h
    · next hname =>
      refine ⟨Except.ok.inj h, fun entry => ?_⟩
      rw [look, if_neg hname, entry_set_self]

theorem find_set {files : Files} {path : Path} {place : Place} {found : Option Entry}
    (htarget : files.target path = .ok (.entry place)) (hlook : files.look place = .ok found)
    (hfound : ∀ access, found ≠ some ⟨.directory, access⟩) (hslash : ¬path.endsInSlash = true)
    (content : ByteArray) (access : Access) :
    (files.set place (some ⟨.file content, access⟩)).find path = .ok ⟨.file content, access⟩ := by
  obtain ⟨hentry, hlooked⟩ := look_eq hlook hfound
  have hplace : files.NoDirectory place := fun access => by
    rw [hentry]
    exact hfound access
  rw [find, target_set hplace htarget]
  simp [hlooked, hslash]

/-- A file that was written has the content that was written, and it is one that may be
    written: it was there and may be, or it is new. -/
theorem find_of_write {files changed : Files} {path : Path} {content : ByteArray}
    (h : files.write path content = (.ok (), changed)) :
    ∃ access, access.write = true ∧ changed.find path = .ok ⟨.file content, access⟩ := by
  unfold write at h
  split at h
  · cases h
  · cases h
  · next place htarget =>
    split at h
    · cases h
    · next hslash =>
      split at h
      · cases h
      · cases h
      · next access hlook =>
        split at h
        · next hwrite =>
          obtain rfl := (Prod.mk.inj h).2
          exact ⟨access, hwrite, find_set htarget hlook nofun hslash content access⟩
        · cases h
      · next hlook =>
        split at h
        · obtain rfl := (Prod.mk.inj h).2
          exact ⟨{}, rfl, find_set htarget hlook nofun hslash content {}⟩
        · cases h

theorem lookup_of_find {files : Files} {path : Path} {entry : Entry}
    (h : files.find path = .ok entry) : files.lookup path = .ok entry.node := by
  rw [lookup, h]
  rfl

theorem exists_find_of_lookup {files : Files} {path : Path} {node : Node}
    (h : files.lookup path = .ok node) : ∃ access, files.find path = .ok ⟨node, access⟩ := by
  rw [lookup] at h
  cases hfind : files.find path with
  | error cause => rw [hfind] at h; cases h
  | ok entry =>
    rw [hfind] at h
    cases h
    exact ⟨entry.access, rfl⟩

/-- A file that was written has the content that was written. -/
theorem lookup_of_write {files changed : Files} {path : Path} {content : ByteArray}
    (h : files.write path content = (.ok (), changed)) :
    changed.lookup path = .ok (.file content) := by
  obtain ⟨access, -, hfind⟩ := find_of_write h
  exact lookup_of_find hfind

end Files

end VpnTray
