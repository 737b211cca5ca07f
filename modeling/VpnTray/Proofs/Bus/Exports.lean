import Mathlib.Data.List.Induction
import VpnTray.Bus.Router
import VpnTray.Proofs.Bus.Dispatch
import VpnTray.Proofs.Bus.Registry

/-!
# Exports

A program exports its objects one after the other. An export fails if the path of the object is
not valid, or if an object is there already. So the objects on the bus are those whose export
succeeded, and for each path it is the first one that counts.

* `IsObjectPath`: the grammar of object paths, which `isObjectPath` decides;
* `Exports.step`: one more export, which changes nothing if it fails;
* `Exports.Agrees`: the objects are those whose export succeeded, as each step keeps it;
* `exporting`: what holds after any run of exports.
-/

namespace VpnTray.Bus

/-! ## Object paths -/

/-- The character is an ASCII letter, a digit or an underscore. -/
def IsElementChar (c : Char) : Prop :=
  ('A' ≤ c ∧ c ≤ 'Z') ∨ ('a' ≤ c ∧ c ≤ 'z') ∨ ('0' ≤ c ∧ c ≤ '9') ∨ c = '_'

/-- An element of a path is one or more of these characters. -/
def IsPathElement (element : List Char) : Prop := element ≠ [] ∧ ∀ c ∈ element, IsElementChar c

/-- The grammar of object paths. -/
inductive IsObjectPath : List Char → Prop
  | root : IsObjectPath ['/']
  | elements (first : List Char) (rest : List (List Char))
      (h : ∀ element ∈ first :: rest, IsPathElement element) :
    IsObjectPath ((first :: rest).flatMap ('/' :: ·))

theorem isUpper_iff {c : Char} : c.isUpper ↔ 'A' ≤ c ∧ c ≤ 'Z' := decide_eq_true_iff

theorem isLower_iff {c : Char} : c.isLower ↔ 'a' ≤ c ∧ c ≤ 'z' :=
  Bool.and_eq_true_iff.trans (and_congr decide_eq_true_iff decide_eq_true_iff)

theorem isDigit_iff {c : Char} : c.isDigit ↔ '0' ≤ c ∧ c ≤ '9' :=
  Bool.and_eq_true_iff.trans (and_congr decide_eq_true_iff decide_eq_true_iff)

theorem isPathChar_iff {c : Char} : isPathChar c ↔ IsElementChar c := by
  have halphanum : c.isAlphanum = (c.isUpper || c.isLower || c.isDigit) := rfl
  rw [isPathChar, halphanum]
  simp [IsElementChar, isUpper_iff, isLower_iff, isDigit_iff, or_assoc]

instance : DecidablePred IsElementChar := fun _ => decidable_of_iff _ isPathChar_iff

theorem arePathElements_iff {elements : List (List Char)} :
    arePathElements elements ↔ ∀ element ∈ elements, IsPathElement element := by
  simp [arePathElements, IsPathElement, isPathChar_iff]

theorem isObjectPath_iff_splitOnP {path : String} :
    isObjectPath path ↔ path.toList = ['/'] ∨
      ∃ rest, path.toList = '/' :: rest ∧ arePathElements (rest.splitOnP (· == '/')) := by
  unfold isObjectPath
  split
  next h => exact iff_of_true rfl (.inl h)
  next rest hne h =>
    rw [h]
    constructor
    · exact fun helements => .inr ⟨rest, rfl, helements⟩
    · rintro (hroot | ⟨_, hrest, helements⟩)
      · exact absurd (List.cons.inj hroot).2 hne
      · rwa [(List.cons.inj hrest).2]
  next _ hslash =>
    refine iff_of_false Bool.false_ne_true ?_
    rintro (hroot | ⟨rest, hrest, -⟩)
    · exact hslash [] hroot
    · exact hslash rest hrest

/-- With a slash before each of the elements they are as with slashes between them. -/
theorem flatMap_slash (first : List Char) (rest : List (List Char)) :
    (first :: rest).flatMap ('/' :: ·) = '/' :: ['/'].intercalate (first :: rest) := by
  induction rest generalizing first with
  | nil => simp
  | cons second rest ih =>
    rw [List.flatMap_cons, ih, List.intercalate_cons_cons, List.append_assoc]
    rfl

theorem IsElementChar.ne_slash {c : Char} (h : IsElementChar c) : c ≠ '/' := by
  rintro rfl
  exact absurd h (by decide)

/-- The object paths are what the grammar says. -/
theorem isObjectPath_iff {path : String} : isObjectPath path ↔ IsObjectPath path.toList := by
  rw [isObjectPath_iff_splitOnP]
  constructor
  · rintro (hroot | ⟨rest, hpath, helements⟩)
    · rw [hroot]
      exact .root
    · obtain ⟨first, others, hsplit⟩ :=
        List.exists_cons_of_ne_nil (List.splitOnP_ne_nil (· == '/') rest)
      have hrest : ['/'].intercalate (first :: others) = rest :=
        hsplit ▸ List.intercalate_splitOn '/'
      rw [hpath, ← hrest, ← flatMap_slash]
      exact .elements first others (arePathElements_iff.1 (hsplit ▸ helements))
  · intro h
    generalize path.toList = cs at h
    cases h with
    | root => exact .inl rfl
    | elements first rest h =>
      -- No element holds a slash, so that splitting the path gives them back.
      have hslash : ∀ element ∈ first :: rest, '/' ∉ element := fun element helement hmem =>
        ((h element helement).2 '/' hmem).ne_slash rfl
      have hsplit : (['/'].intercalate (first :: rest)).splitOnP (· == '/') = first :: rest :=
        List.splitOn_intercalate '/' hslash (List.cons_ne_nil _ _)
      exact .inr ⟨_, flatMap_slash first rest, arePathElements_iff.2 (hsplit.symm ▸ h)⟩

instance (path : String) : Decidable (IsObjectPath path.toList) :=
  decidable_of_iff _ isObjectPath_iff

theorem IsObjectPath.mem {cs : List Char} (h : IsObjectPath cs) {c : Char} (hc : c ∈ cs) :
    c = '/' ∨ IsElementChar c := by
  cases h with
  | root => exact .inl (List.mem_singleton.1 hc)
  | elements first rest h =>
    obtain ⟨element, helement, hc⟩ := List.mem_flatMap.1 hc
    exact (List.mem_cons.1 hc).imp_right ((h element helement).2 c)

/-- The characters that a document can only hold in another form. -/
def escapedChars : List Char := ['<', '>', '&', '"', '\'']

/-- None of the characters in a path has to be escaped in a document. -/
theorem IsObjectPath.not_mem {cs : List Char} (h : IsObjectPath cs) :
    ∀ c ∈ escapedChars, c ∉ cs := by
  have hnone : escapedChars.all fun c => c ≠ '/' ∧ ¬IsElementChar c := by decide
  intro c hc hmem
  obtain ⟨hslash, helement⟩ := of_decide_eq_true (List.all_eq_true.1 hnone c hc)
  rcases h.mem hmem with heq | hchar
  · exact hslash heq
  · exact helement hchar

/-- An object with a valid path shows a document that is read as it is written. -/
theorem readElements_object {σ : Type} {object : Object σ} (h : IsObjectPath object.path.toList) :
    readElements object.document =
      some [.node "node" [("name", object.path)]
        (object.kind.interfaces.map Interface.element)] :=
  readElements_document ⟨h.not_mem '"' (by decide), h.not_mem '>' (by decide)⟩
    isPlain_of_mem_interfaces

/-! ## One export -/

variable {σ : Type}

/-- What an export can do. -/
theorem Objects.insert_cases (objects : Objects σ) (object : Object σ) :
    (¬IsObjectPath object.path.toList ∧
      objects.insert object = .error (.invalidObjectPath object.path)) ∨
    (IsObjectPath object.path.toList ∧ (objects.get? object.path).isSome ∧
      objects.insert object = .error (.takenObjectPath object.path)) ∨
    (IsObjectPath object.path.toList ∧ objects.get? object.path = none ∧
      objects.insert object = .ok (objects.put object.path object)) := by
  by_cases hpath : isObjectPath object.path
  · have hgrammar := isObjectPath_iff.1 hpath
    rcases hfound : objects.get? object.path with _ | other
    · refine .inr (.inr ⟨hgrammar, rfl, ?_⟩)
      simp [insert, hpath, hfound]
    · refine .inr (.inl ⟨hgrammar, rfl, ?_⟩)
      simp [insert, hpath, hfound]
  · refine .inl ⟨mt isObjectPath_iff.2 hpath, ?_⟩
    simp [insert, hpath]

/-- What has come of a run of exports. -/
structure Exports (σ : Type) where
  objects : Objects σ := []
  /-- The objects whose export succeeded, in their order. -/
  succeeded : List (Object σ) := []

/-- Exports one more object. If this fails, everything stays as it was. -/
def Exports.step (exports : Exports σ) (object : Object σ) : Exports σ :=
  match exports.objects.insert object with
  | .ok objects => ⟨objects, exports.succeeded ++ [object]⟩
  | .error _ => exports

theorem Exports.step_of_error {exports : Exports σ} {object : Object σ} {error : Error}
    (h : exports.objects.insert object = .error error) : exports.step object = exports := by
  rw [step, h]

theorem Exports.step_of_ok {exports : Exports σ} {object : Object σ} {after : Objects σ}
    (h : exports.objects.insert object = .ok after) :
    exports.step object = ⟨after, exports.succeeded ++ [object]⟩ := by
  rw [step, h]

/-- Exports some objects, one after the other, with none there before. -/
def exportAll (objects : List (Object σ)) : Exports σ := objects.foldl Exports.step {}

theorem exportAll_concat (objects : List (Object σ)) (object : Object σ) :
    exportAll (objects ++ [object]) = (exportAll objects).step object := by
  rw [exportAll, List.foldl_append, List.foldl_cons, List.foldl_nil, exportAll]

/-- The objects that are there are those whose export succeeded. -/
structure Exports.Agrees (exports : Exports σ) : Prop where
  found : ∀ path, exports.objects.get? path = exports.succeeded.find? (·.path = path)
  valid : ∀ path object, (path, object) ∈ exports.objects →
    object.path = path ∧ IsObjectPath path.toList
  count : exports.objects.length = exports.succeeded.length

theorem Objects.notMem_of_get? {objects : Objects σ} {path : String}
    (h : objects.get? path = none) : path ∉ objects.map Prod.fst := by
  intro hmem
  obtain ⟨entry, hentry, rfl⟩ := List.mem_map.1 hmem
  exact bne_iff_ne.1 (List.lookup_eq_none_iff.1 h entry hentry) rfl

theorem Objects.get?_put {objects : Objects σ} {object : Object σ}
    (h : objects.get? object.path = none) (path : String) :
    Objects.get? (objects.put object.path object) path =
      (objects.get? path).or ([object].find? (·.path = path)) := by
  by_cases hpath : object.path = path
  · subst hpath
    rw [h, Option.none_or, List.find?_singleton, if_pos (decide_eq_true rfl)]
    exact Names.lookup_put_self _ _ _
  · rw [List.find?_singleton, if_neg (mt of_decide_eq_true hpath), Option.or_none]
    exact Names.lookup_put_of_ne (Ne.symm hpath) _ _

/-- One more export keeps this. -/
theorem Exports.Agrees.step {exports : Exports σ} (h : exports.Agrees) (object : Object σ) :
    (exports.step object).Agrees := by
  rcases exports.objects.insert_cases object with
    ⟨-, hinsert⟩ | ⟨-, -, hinsert⟩ | ⟨hpath, hnone, hinsert⟩
  · rwa [Exports.step_of_error hinsert]
  · rwa [Exports.step_of_error hinsert]
  · rw [Exports.step_of_ok hinsert]
    refine ⟨fun path => ?_, fun path other hmem => ?_, ?_⟩
    · rw [List.find?_append, ← h.found]
      exact Objects.get?_put hnone path
    · rcases Names.eq_or_mem_of_mem_put hmem with heq | hmem
      · obtain ⟨rfl, rfl⟩ := Prod.mk.inj heq
        exact ⟨rfl, hpath⟩
      · exact h.valid path other hmem
    · rw [(Names.perm_put (Objects.notMem_of_get? hnone) object).length_eq, List.length_append,
        List.length_cons, h.count]
      rfl

theorem agrees_exportAll (objects : List (Object σ)) : (exportAll objects).Agrees := by
  induction objects using List.reverseRecOn with
  | nil => exact ⟨fun _ => rfl, nofun, rfl⟩
  | append_singleton objects object ih =>
    rw [exportAll_concat]
    exact ih.step object

/-- Only where there is no object yet can one more export put one. -/
theorem Exports.get?_step (exports : Exports σ) (object : Object σ) (path : String) :
    (exports.step object).objects.get? path = (exports.objects.get? path).or
      (if IsObjectPath object.path.toList then [object].find? (·.path = path) else none) := by
  rcases exports.objects.insert_cases object with
    ⟨hpath, hinsert⟩ | ⟨hpath, hsome, hinsert⟩ | ⟨hpath, hnone, hinsert⟩
  · rw [step_of_error hinsert, if_neg hpath, Option.or_none]
  · rw [step_of_error hinsert, if_pos hpath, List.find?_singleton]
    by_cases heq : object.path = path
    · rw [← heq, Option.or_of_isSome hsome]
    · rw [if_neg (mt of_decide_eq_true heq), Option.or_none]
  · rw [step_of_ok hinsert, if_pos hpath]
    exact Objects.get?_put hnone path

/-- The object at a valid path is the first one with this path. -/
theorem get?_exportAll (objects : List (Object σ)) (path : String) :
    (exportAll objects).objects.get? path =
      if IsObjectPath path.toList then objects.find? (·.path = path) else none := by
  induction objects using List.reverseRecOn with
  | nil => exact (ite_self none).symm
  | append_singleton objects object ih =>
    rw [exportAll_concat, Exports.get?_step, ih, List.find?_append, List.find?_singleton]
    by_cases hpath : object.path = path
    · subst hpath
      split <;> rfl
    · rw [if_neg (mt of_decide_eq_true hpath), ite_self, Option.or_none, Option.or_none]

/-! ## Runs of exports -/

/-- What holds after a run of exports, whatever the paths and the kinds of the objects are. -/
structure Exporting (objects : List (Object σ)) : Prop where
  /-- An export fails if its path is not valid, or is that of an export that succeeded. -/
  fails : ∀ object, (∃ error, (exportAll objects).objects.insert object = .error error) ↔
    ¬IsObjectPath object.path.toList ∨
      ∃ other ∈ (exportAll objects).succeeded, other.path = object.path
  /-- The error says which of these it is, and names the path. -/
  error_eq : ∀ object error, (exportAll objects).objects.insert object = .error error →
    error = if IsObjectPath object.path.toList then .takenObjectPath object.path
      else .invalidObjectPath object.path
  /-- An export that fails changes nothing. -/
  unchanged : ∀ object error, (exportAll objects).objects.insert object = .error error →
    exportAll (objects ++ [object]) = exportAll objects
  /-- An export that succeeds is the last one that has succeeded so far. -/
  succeeds : ∀ object after, (exportAll objects).objects.insert object = .ok after →
    exportAll (objects ++ [object]) = ⟨after, (exportAll objects).succeeded ++ [object]⟩
  /-- The object at a path is that of the first export that succeeded there, if any. -/
  found : ∀ path, (exportAll objects).objects.get? path =
    (exportAll objects).succeeded.find? (·.path = path)
  /-- It is the first one of all at this path, if the path is valid. -/
  first : ∀ path, (exportAll objects).objects.get? path =
    if IsObjectPath path.toList then objects.find? (·.path = path) else none
  /-- Each object is kept under its own path, which is valid. -/
  valid : ∀ path object, (path, object) ∈ (exportAll objects).objects →
    object.path = path ∧ IsObjectPath path.toList
  /-- Its document gives this path as it is, and none of the characters have to be escaped. -/
  plain : ∀ path object, (path, object) ∈ (exportAll objects).objects →
    (∀ c ∈ escapedChars, c ∉ path.toList) ∧
      readElements object.document = some [.node "node" [("name", path)]
        (object.kind.interfaces.map Interface.element)]
  /-- There are as many objects as there are exports that succeeded. -/
  count : (exportAll objects).objects.length = (exportAll objects).succeeded.length

/-- Whatever is exported, each path has the object that was exported there first. -/
theorem exporting (objects : List (Object σ)) : Exporting objects where
  fails object := by
    have hfound := (agrees_exportAll objects).found object.path
    rcases (exportAll objects).objects.insert_cases object with
      ⟨hpath, hinsert⟩ | ⟨hpath, hsome, hinsert⟩ | ⟨hpath, hnone, hinsert⟩
    · exact iff_of_true ⟨_, hinsert⟩ (.inl hpath)
    · rw [hfound, List.find?_isSome] at hsome
      exact iff_of_true ⟨_, hinsert⟩ (.inr (by simpa using hsome))
    · rw [hfound, List.find?_eq_none] at hnone
      refine iff_of_false ?_ ?_
      · rintro ⟨error, herror⟩
        exact nomatch hinsert.symm.trans herror
      · rintro (hnot | ⟨other, hother, heq⟩)
        · exact hnot hpath
        · exact hnone other hother (decide_eq_true heq)
  error_eq object error h := by
    rcases (exportAll objects).objects.insert_cases object with
      ⟨hpath, hinsert⟩ | ⟨hpath, -, hinsert⟩ | ⟨-, -, hinsert⟩
    · rw [if_neg hpath]
      exact Except.error.inj (h.symm.trans hinsert)
    · rw [if_pos hpath]
      exact Except.error.inj (h.symm.trans hinsert)
    · exact nomatch hinsert.symm.trans h
  unchanged object error h := (exportAll_concat objects object).trans (Exports.step_of_error h)
  succeeds object after h := (exportAll_concat objects object).trans (Exports.step_of_ok h)
  found := (agrees_exportAll objects).found
  first := get?_exportAll objects
  valid := (agrees_exportAll objects).valid
  plain path object hmem := by
    obtain ⟨rfl, hpath⟩ := (agrees_exportAll objects).valid path object hmem
    exact ⟨hpath.not_mem, readElements_object hpath⟩
  count := (agrees_exportAll objects).count

/-- The tray exports its item, and then its menu. -/
theorem objects_exportAll_tray : (exportAll [itemObject, menuObject]).objects = trayObjects := by
  rfl

/-- A second export of the item fails, and so does one at a path without a slash. -/
example : (exportAll [itemObject, itemObject, ⟨"no/slash", .menu, {}⟩]).succeeded.map (·.path) =
    ["/StatusNotifierItem"] := by
  rfl

end VpnTray.Bus
