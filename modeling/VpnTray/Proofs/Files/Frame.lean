import VpnTray.Files

/-!
# What an operation on a file leaves alone

A path leads to one place, whatever lies there and on the way (`place_of_target`). An
operation on a file changes nothing but what lies at this place, and directories that are
made on the way come where nothing was; so the files at other places are found as before
(`keepsBut_remove`, `keepsBut_write`, `keepsBut_makeDirectories`). A file that was removed is
there no more (`lookup_of_remove`).

No operation takes a permission away: what may be done at a place is what could be done
there before, or everything (`Loosens`). So a file that may be read if it may be written
stays one (`Legible`), and what is written to it is read from it (`readable_of_write`).
-/

namespace VpnTray

/-- Where a name leads from a place. -/
def Place.enter (place : Place) (name : Text) : Place :=
  if name = ['.'] then place else if name = ['.', '.'] then place.tail else name :: place

theorem Path.place_eq (path : Path) : path.place = path.names.foldl Place.enter [] := rfl

namespace Files

variable {files changed : Files} {path : Path} {place : Place} {content : ByteArray}
  {access : Access}

/-! ## Where a path leads -/

theorem walk_eq_foldl {start stop : Place} {names : List Text}
    (h : files.walk start names = .ok stop) : stop = names.foldl Place.enter start := by
  fun_induction walk files start names with
  | case1 => exact (Except.ok.inj h).symm
  | case2 => cases h
  | case3 _ _ _ ih => exact ih h
  | case4 _ _ _ _ ih => exact ih h
  | case5 => cases h
  | case6 => cases h
  | case7 => cases h
  | case8 start name names _ hdot hdots _ _ ih =>
    have henter : Place.enter start name = name :: start := by
      rw [Place.enter, if_neg hdot, if_neg hdots]
    rw [List.foldl_cons, henter]
    exact ih h

/-- If a path names an entry of a directory, it is the one at its place. -/
theorem place_of_target (h : files.target path = .ok (.entry place)) : path.place = place := by
  unfold Files.target at h
  split at h
  · cases h
  split at h
  · cases h
  split at h
  · cases h
  next name hlast =>
    cases hwalk : files.walk [] path.names.dropLast with
    | error cause => rw [hwalk] at h; cases h
    | ok outer =>
      rw [hwalk] at h
      simp only [Except.bind, last] at h
      split at h
      · cases h
      split at h
      · cases h
      next hdot =>
        split at h
        · cases h
        next hdots =>
          obtain ⟨names, hnames⟩ := List.getLast?_eq_some_iff.1 hlast
          rw [hnames, List.dropLast_concat] at hwalk
          have henter : Place.enter outer name = name :: outer := by
            rw [Place.enter, if_neg hdot, if_neg hdots]
          rw [Path.place_eq, hnames, List.foldl_append, ← walk_eq_foldl hwalk,
            List.foldl_cons, List.foldl_nil, henter]
          exact Target.entry.inj (Except.ok.inj h)

/-- A path names a file if a file lies at its place, and it does not ask for a directory. -/
theorem find_eq_file_iff :
    files.find path = .ok ⟨.file content, access⟩ ↔
      files.target path = .ok (.entry path.place) ∧
        files.look path.place = .ok (some ⟨.file content, access⟩) ∧
          path.endsInSlash = false := by
  unfold find
  constructor
  · intro h
    split at h
    · cases h
    · cases h
    · next place htarget =>
      obtain rfl := place_of_target htarget
      refine ⟨htarget, ?_⟩
      split at h
      · cases h
      · cases h
      · cases h
      · next found allowed hlook =>
        split at h
        · cases h
        · next hslash =>
          cases h
          exact ⟨hlook, Bool.eq_false_iff.2 hslash⟩
  · rintro ⟨htarget, hlook, hslash⟩
    simp [htarget, hlook, hslash]

theorem access_of_look {entry : Entry} (h : files.look place = .ok (some entry)) :
    files.access place = entry.access := by
  cases place with
  | nil =>
    obtain rfl := Option.some.inj (Except.ok.inj h)
    rfl
  | cons name outer =>
    rw [look] at h
    split at h
    · cases h
    · rw [Files.access, Except.ok.inj h]
      rfl

theorem access_of_find (h : files.find path = .ok ⟨.file content, access⟩) :
    files.access path.place = access :=
  access_of_look (find_eq_file_iff.1 h).2.1

/-- A file is found in directories. -/
theorem noDirectory_of_look {found : Option Entry} (h : files.look place = .ok found)
    (hfound : ∀ access, found ≠ some ⟨.directory, access⟩) : files.NoDirectory place :=
  fun access => by
    rw [(look_eq h hfound).1]
    exact hfound access

/-! ## What is removed is gone -/

/-- A file that was removed is there no more; its directory has to be one that may be
    written. -/
theorem lookup_of_remove (h : files.lookup path = .ok (.file content))
    (hchange : files.mayChange path.place = true) :
    (files.remove path).2.lookup path = .error .notFound := by
  obtain ⟨access, hfind⟩ := exists_find_of_lookup h
  obtain ⟨htarget, hlook, hslash⟩ := find_eq_file_iff.1 hfind
  have hremove : (files.remove path).2 = files.set path.place none := by
    simp [remove, htarget, hlook, hslash, hchange]
  have hgone := (look_eq hlook nofun).2 none
  rw [hremove, lookup, find, target_set (noDirectory_of_look hlook nofun) htarget]
  simp only [hgone]
  rfl

/-! ## What an operation does -/

/-- If something is removed, it is the file at the place of its path. -/
theorem remove_cases (path : Path) (files : Files) :
    (files.remove path).2 = files ∨
      ∃ content access, files.look path.place = .ok (some ⟨.file content, access⟩) ∧
        (files.remove path).2 = files.set path.place none := by
  unfold remove
  split
  · exact .inl rfl
  · exact .inl rfl
  · next place htarget =>
    obtain rfl := place_of_target htarget
    split
    · exact .inl rfl
    · exact .inl rfl
    · split <;> exact .inl rfl
    · next content access hlook =>
      split
      · exact .inl rfl
      · split
        · exact .inr ⟨content, access, hlook, rfl⟩
        · exact .inl rfl

/-- If something is written, it is a file at the place of its path, with which may be done what
    could be done with the one before, or everything if there was none. -/
theorem write_cases (path : Path) (content : ByteArray) (files : Files) :
    (files.write path content).2 = files ∨
      ∃ found access, files.look path.place = .ok found ∧
        (∀ allowed, found ≠ some ⟨.directory, allowed⟩) ∧
        (access = files.access path.place ∨ access = {}) ∧
        (files.write path content).2 = files.set path.place (some ⟨.file content, access⟩) := by
  unfold write
  split
  · exact .inl rfl
  · exact .inl rfl
  · next place htarget =>
    obtain rfl := place_of_target htarget
    split
    · exact .inl rfl
    split
    · exact .inl rfl
    · exact .inl rfl
    · next before access hlook =>
      split
      · exact .inr ⟨_, access, hlook, nofun, .inl (access_of_look hlook).symm, rfl⟩
      · exact .inl rfl
    · next hlook =>
      split
      · exact .inr ⟨none, {}, hlook, nofun, .inr rfl, rfl⟩
      · exact .inl rfl

/-- If a directory is made, it comes where nothing was. -/
theorem ensureDirectory_cases (path : Path) (files : Files) :
    (files.ensureDirectory path).2 = files ∨
      ∃ place, files.look place = .ok none ∧
        (files.ensureDirectory path).2 = files.set place (some ⟨.directory, {}⟩) := by
  unfold ensureDirectory makeDirectory
  split
  · next changed hmade =>
    split at hmade
    · cases hmade
    · cases hmade
    · next place htarget =>
      split at hmade
      · cases hmade
      · cases hmade
      · next hlook =>
        split at hmade
        · cases hmade
          exact .inr ⟨place, hlook, rfl⟩
        · cases hmade
  · exact .inl rfl

/-- What the making of each directory keeps is kept when all of them are made. -/
theorem rel_makeDirectories {rel : Files → Files → Prop} (hrefl : ∀ files, rel files files)
    (htrans : ∀ files made later, rel files made → rel made later → rel files later)
    (hstep : ∀ files path, rel files (files.ensureDirectory path).2) (path : Path)
    (files : Files) : rel files (files.makeDirectories path).2 := by
  rw [makeDirectories]
  fun_induction ensureDirectories path.above files with
  | case1 => exact hrefl _
  | case2 files path outer _ _ made houter ih =>
    rw [houter] at ih
    exact htrans _ _ _ ih (hstep made _)
  | case3 => assumption
  | case4 => exact hstep _ _

theorem entry_remove_of_ne {other : Place} (h : other ≠ path.place) :
    (files.remove path).2.entry other = files.entry other := by
  rcases remove_cases path files with heq | ⟨_, _, _, heq⟩
  · rw [heq]
  · rw [heq, entry_set_of_ne h]

/-! ## Files at other places -/

/-- Each file that a path names, unless it lies at `place`, is named by it still, and what it
    holds is the same, and what may be done with it. -/
def KeepsBut (place : Place) (files changed : Files) : Prop :=
  ∀ path content access, path.place ≠ place → files.find path = .ok ⟨.file content, access⟩ →
    changed.find path = .ok ⟨.file content, access⟩

theorem KeepsBut.refl (place : Place) (files : Files) : KeepsBut place files files :=
  fun _ _ _ _ h => h

theorem KeepsBut.trans {later : Files} (h : KeepsBut place files changed)
    (hlater : KeepsBut place changed later) : KeepsBut place files later :=
  fun path content access hne hfind =>
    hlater path content access hne (h path content access hne hfind)

/-- A change at a place that is no directory leaves the files at other places. -/
theorem keepsBut_set {entry : Option Entry} (h : files.NoDirectory place) :
    KeepsBut place files (files.set place entry) := by
  intro path content access hne hfind
  obtain ⟨htarget, hlook, hslash⟩ := find_eq_file_iff.1 hfind
  exact find_eq_file_iff.2 ⟨target_set h htarget, (look_set_of_ne hne).trans hlook, hslash⟩

/-- Where nothing lies, something may come without any change to the files. -/
theorem keepsBut_set_of_none {entry : Option Entry} (other : Place)
    (h : files.look place = .ok none) : KeepsBut other files (files.set place entry) := by
  intro path content access _ hfind
  refine keepsBut_set (noDirectory_of_look h nofun) path content access ?_ hfind
  rintro rfl
  rw [(find_eq_file_iff.1 hfind).2.1] at h
  cases h

theorem keepsBut_remove (path : Path) (files : Files) :
    KeepsBut path.place files (files.remove path).2 := by
  rcases remove_cases path files with heq | ⟨content, access, hlook, heq⟩
  · rw [heq]
    exact .refl _ _
  · rw [heq]
    exact keepsBut_set (noDirectory_of_look hlook nofun)

theorem keepsBut_write (path : Path) (content : ByteArray) (files : Files) :
    KeepsBut path.place files (files.write path content).2 := by
  rcases write_cases path content files with heq | ⟨found, access, hlook, hfound, _, heq⟩
  · rw [heq]
    exact .refl _ _
  · rw [heq]
    exact keepsBut_set (noDirectory_of_look hlook hfound)

/-- The directories that are made come where nothing was, so that no file is lost. -/
theorem keepsBut_makeDirectories (place : Place) (path : Path) (files : Files) :
    KeepsBut place files (files.makeDirectories path).2 := by
  refine rel_makeDirectories (.refl place) (fun _ _ _ => .trans) (fun files path => ?_) path files
  rcases ensureDirectory_cases path files with heq | ⟨made, hlook, heq⟩
  · rw [heq]
    exact .refl _ _
  · rw [heq]
    exact keepsBut_set_of_none place hlook

/-! ## Files that may be read -/

/-- A path names a file with some content that may be read. -/
def Readable (files : Files) (path : Path) (content : ByteArray) : Prop :=
  ∃ access, files.find path = .ok ⟨.file content, access⟩ ∧ access.read = true

theorem Readable.lookup_eq (h : files.Readable path content) :
    files.lookup path = .ok (.file content) := by
  obtain ⟨access, hfind, -⟩ := h
  exact lookup_of_find hfind

theorem KeepsBut.readable (h : KeepsBut place files changed) (hne : path.place ≠ place)
    (hreadable : files.Readable path content) : changed.Readable path content := by
  obtain ⟨access, hfind, hread⟩ := hreadable
  exact ⟨access, h path content access hne hfind, hread⟩

/-- A text is read from a file that may be read and holds it. -/
theorem read_eq_ok_iff {text : Text} :
    files.read path = .ok text ↔
      ∃ content, files.Readable path content ∧ Text.Utf8.decode? content = some text := by
  unfold Files.read
  constructor
  · intro h
    split at h
    · cases h
    next entry hfind =>
      split at h
      · cases h
      next hread =>
        split at h
        · cases h
        next content hnode =>
          split at h
          · cases h
          next decoded hdecode =>
            obtain rfl := Except.ok.inj h
            obtain ⟨node, access⟩ := entry
            obtain rfl : node = .file content := hnode
            exact ⟨content, ⟨access, hfind, by simpa using hread⟩, hdecode⟩
  · rintro ⟨content, ⟨access, hfind, hread⟩, hdecode⟩
    simp [hfind, hread, hdecode]

/-! ## What may be done -/

/-- What may be done at each place is what could be done there before, or everything. -/
def Loosens (files changed : Files) : Prop :=
  ∀ place, changed.access place = files.access place ∨ changed.access place = {}

theorem Loosens.refl (files : Files) : Loosens files files := fun _ => .inl rfl

theorem Loosens.trans {later : Files} (h : Loosens files changed) (hlater : Loosens changed later) :
    Loosens files later := by
  intro place
  rcases hlater place with heq | hfree
  · exact (h place).imp heq.trans heq.trans
  · exact .inr hfree

/-- Who comes to a place may be treated as what was there, or in every way. -/
theorem loosens_set {entry : Option Entry}
    (h : ∀ found, entry = some found → found.access = files.access place ∨ found.access = {}) :
    Loosens files (files.set place entry) := by
  intro other
  by_cases hother : other = place
  · subst hother
    cases other with
    | nil => exact .inl rfl
    | cons name outer =>
      rw [Files.access, entry_set_self]
      cases entry with
      | none => exact .inr rfl
      | some found => exact h found rfl
  · exact .inl (access_set_of_ne hother)

theorem loosens_remove (path : Path) (files : Files) : Loosens files (files.remove path).2 := by
  rcases remove_cases path files with heq | ⟨_, _, _, heq⟩
  · rw [heq]
    exact .refl files
  · rw [heq]
    exact loosens_set nofun

/-- A file that is replaced keeps what may be done with it. -/
theorem loosens_write (path : Path) (content : ByteArray) (files : Files) :
    Loosens files (files.write path content).2 := by
  rcases write_cases path content files with heq | ⟨_, access, _, _, haccess, heq⟩
  · rw [heq]
    exact .refl files
  · rw [heq]
    refine loosens_set fun entry hentry => ?_
    obtain rfl := Option.some.inj hentry
    exact haccess

theorem loosens_makeDirectories (path : Path) (files : Files) :
    Loosens files (files.makeDirectories path).2 := by
  refine rel_makeDirectories .refl (fun _ _ _ => .trans) (fun files path => ?_) path files
  rcases ensureDirectory_cases path files with heq | ⟨_, _, heq⟩
  · rw [heq]
    exact .refl files
  · rw [heq]
    refine loosens_set fun entry hentry => .inr ?_
    obtain rfl := Option.some.inj hentry
    rfl

/-- What lies where a path leads may be read if it may be written. -/
def Legible (files : Files) (path : Path) : Prop :=
  (files.access path.place).write = true → (files.access path.place).read = true

theorem Legible.of_loosens (h : files.Legible path) (hloosens : Loosens files changed) :
    changed.Legible path := by
  unfold Legible
  rcases hloosens path.place with heq | hfree
  · rw [heq]
    exact h
  · rw [hfree]
    exact fun _ => rfl

/-- A file that was written may be read, unless what could be done there before did not allow
    it. -/
theorem readable_of_write (h : files.write path content = (.ok (), changed))
    (hlegible : files.Legible path) : changed.Readable path content := by
  obtain ⟨access, hwrite, hfind⟩ := find_of_write h
  have hloosens : Loosens files changed := by
    have := loosens_write path content files
    rwa [h] at this
  have hread := hlegible.of_loosens hloosens
  rw [Legible, access_of_find hfind] at hread
  exact ⟨access, hfind, hread hwrite⟩

/-- The directory that a path leads into stays one that may be written. -/
theorem Loosens.mayChange (h : Loosens files changed) (hchange : files.mayChange place = true) :
    changed.mayChange place = true := by
  unfold Files.mayChange at *
  rcases h place.tail with heq | hfree
  · rw [heq]
    exact hchange
  · rw [hfree]

end Files

end VpnTray
