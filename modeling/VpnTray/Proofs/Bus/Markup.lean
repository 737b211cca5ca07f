import VpnTray.Bus.Document

/-!
# Reading documents

What an interface document says is what a reader of it finds: elements, with attributes
and with further elements within. The reader here goes through the characters of a text
one by one. It keeps the elements that have been opened on a stack, and hands each one
over to the element around it when it is closed.

* `readElements`: the elements of a text, if each tag in it is closed;
* `Reads`: a part of a text is read as some elements, wherever it stands;
* `reads_element`: what is written by `element` is read as this element.
-/

namespace VpnTray.Bus

/-- An element of a document. -/
inductive Element
  | node (tag : String) (attributes : List (String × String)) (content : List Element)

namespace Element

/-- What kind of element it is. -/
def tag : Element → String
  | node tag _ _ => tag

/-- The value of an attribute. -/
def attribute? (name : String) : Element → Option String
  | node _ attributes _ => attributes.lookup name

/-- The elements of a kind right within an element. -/
def children (tag : String) : Element → List Element
  | node _ _ content => content.filter (·.tag = tag)

end Element

/-! ## The reader -/

/-- An element that has been opened, with the elements before it. -/
structure Frame where
  tag : String
  attributes : List (String × String)
  before : List Element

/-- How far a text has been read. -/
structure Reading where
  /-- The elements around, the innermost first. -/
  around : List Frame := []
  /-- What has been read within the innermost of them. -/
  content : List Element := []
  /-- The tag that is being read, if any. -/
  tag : Option (List Char) := none

/-- The attributes of a tag that has been split at its quotation marks: each value comes
    after a piece that ends with a blank, the name of the attribute and an equals sign. -/
def attributesOf : List (List Char) → List (String × String)
  | before :: value :: rest =>
    (.ofList (((before.dropWhile (· ≠ ' ')).drop 1).takeWhile (· ≠ '=')), .ofList value) ::
      attributesOf rest
  | _ => []

namespace Reading

/-- Closes the innermost element, if it has the given tag. -/
def close (reading : Reading) (tag : String) : Reading :=
  match reading.around with
  | frame :: around =>
    if frame.tag = tag then
      { around, content := frame.before ++ [.node tag frame.attributes reading.content] }
    else reading
  | [] => reading

/-- Takes a whole tag: a declaration, the end of an element, an element that is closed at
    once, or the beginning of one. -/
def takeTag (reading : Reading) (cs : List Char) : Reading :=
  let tag : String := .ofList (cs.takeWhile fun c => c ≠ ' ' ∧ c ≠ '/')
  let attributes := attributesOf (cs.splitOn '"')
  if cs.head? = some '!' then reading
  else if cs.head? = some '/' then reading.close (.ofList (cs.drop 1))
  else if cs.getLast? = some '/' then
    { reading with content := reading.content ++ [.node tag attributes []] }
  else { around := ⟨tag, attributes, reading.content⟩ :: reading.around }

/-- Takes one character. -/
def step (reading : Reading) (c : Char) : Reading :=
  match reading.tag with
  | none => if c = '<' then { reading with tag := some [] } else reading
  | some cs =>
    if c = '>' then { reading with tag := none }.takeTag cs
    else { reading with tag := some (cs ++ [c]) }

end Reading

/-- The elements of a text, if it ends outside of all of them. -/
def readElements (text : String) : Option (List Element) :=
  match text.toList.foldl Reading.step {} with
  | ⟨[], content, none⟩ => some content
  | _ => none

/-- Wherever a text stands between tags, it is read as some elements. -/
def Reads (text : String) (elements : List Element) : Prop :=
  ∀ around before, text.toList.foldl Reading.step ⟨around, before, none⟩ =
    ⟨around, before ++ elements, none⟩

theorem readElements_of_reads {text : String} {elements : List Element}
    (h : Reads text elements) : readElements text = some elements := by
  rw [readElements, h [] []]
  rfl

theorem Reads.append {text text' : String} {elements elements' : List Element}
    (h : Reads text elements) (h' : Reads text' elements') :
    Reads (text ++ text') (elements ++ elements') := by
  intro around before
  rw [String.toList_append, List.foldl_append, h, h', List.append_assoc]

theorem reads_nil : Reads (String.join []) [] := by
  intro around before
  rw [String.join_nil, List.append_nil]
  rfl

/-- Parts of a text that are each read as one element. -/
theorem reads_join {α : Type} {text : α → String} {element : α → Element} {parts : List α}
    (h : ∀ part ∈ parts, Reads (text part) [element part]) :
    Reads (String.join (parts.map text)) (parts.map element) := by
  induction parts with
  | nil => exact reads_nil
  | cons part parts ih =>
    rw [List.map_cons, String.join_cons, List.map_cons, ← List.singleton_append]
    refine (h part List.mem_cons_self).append (ih fun part hpart => ?_)
    exact h part (List.mem_cons_of_mem _ hpart)

theorem foldl_step_blank {cs : List Char} (h : '<' ∉ cs) (around : List Frame)
    (before : List Element) :
    cs.foldl Reading.step ⟨around, before, none⟩ = ⟨around, before, none⟩ := by
  induction cs with
  | nil => rfl
  | cons c cs ih =>
    rw [List.mem_cons, not_or] at h
    rw [List.foldl_cons, Reading.step, if_neg fun heq => h.1 heq.symm]
    exact ih h.2

/-! ## Tags -/

theorem foldl_step_tag {around : List Frame} {before : List Element} {cs : List Char}
    (h : '>' ∉ cs) (start : List Char) :
    cs.foldl Reading.step ⟨around, before, some start⟩ = ⟨around, before, some (start ++ cs)⟩ := by
  induction cs generalizing start with
  | nil => rw [List.append_nil]; rfl
  | cons c cs ih =>
    rw [List.mem_cons, not_or] at h
    rw [List.foldl_cons, Reading.step]
    simp only
    rw [if_neg fun heq => h.1 heq.symm, ih h.2, List.append_assoc, List.singleton_append]

/-- A tag is taken as a whole. -/
theorem foldl_step_angles {indent cs : List Char} (hindent : '<' ∉ indent) (hcs : '>' ∉ cs)
    (around : List Frame) (before : List Element) (rest : List Char) :
    (indent ++ '<' :: (cs ++ '>' :: rest)).foldl Reading.step ⟨around, before, none⟩ =
      rest.foldl Reading.step (Reading.takeTag ⟨around, before, none⟩ cs) := by
  rw [List.foldl_append, foldl_step_blank hindent, List.foldl_cons]
  change List.foldl Reading.step ⟨around, before, some []⟩ _ = _
  rw [List.foldl_append, foldl_step_tag hcs, List.foldl_cons]
  rfl

/-- The text is a word of letters. -/
def IsWord (text : String) : Prop := text.toList ≠ [] ∧ text.toList.all Char.isAlpha

/-- The text can stand in quotation marks as it is. -/
def IsPlain (text : String) : Prop := '"' ∉ text.toList ∧ '>' ∉ text.toList

instance (text : String) : Decidable (IsWord text) := inferInstanceAs (Decidable (_ ∧ _))

instance (text : String) : Decidable (IsPlain text) := inferInstanceAs (Decidable (_ ∧ _))

theorem IsWord.not_mem {text : String} (h : IsWord text) {c : Char} (hc : c.isAlpha = false) :
    c ∉ text.toList :=
  fun hmem => Bool.false_ne_true (hc.symm.trans (List.all_eq_true.1 h.2 c hmem))

/-- An attribute as it is written. -/
def attrChars (entry : String × String) : List Char :=
  ' ' :: (entry.1.toList ++ '=' :: '"' :: (entry.2.toList ++ ['"']))

theorem toList_attr (name value : String) : (attr name value).toList = attrChars (name, value) := by
  simp [attr, attrChars]

/-- Attributes whose names and values can be told apart. -/
def AreAttributes (attributes : List (String × String)) : Prop :=
  ∀ entry ∈ attributes, IsWord entry.1 ∧ IsPlain entry.2

theorem areAttributes_nil : AreAttributes [] := nofun

theorem areAttributes_cons {name value : String} {attributes : List (String × String)}
    (hname : IsWord name) (hvalue : IsPlain value) (h : AreAttributes attributes) :
    AreAttributes ((name, value) :: attributes) :=
  List.forall_mem_cons.2 ⟨⟨hname, hvalue⟩, h⟩

/-- The name of an attribute is found between a blank and an equals sign. -/
theorem takeWhile_name {before name : List Char} (hbefore : ' ' ∉ before) (hname : '=' ∉ name) :
    (((before ++ ' ' :: (name ++ ['='])).dropWhile (· ≠ ' ')).drop 1).takeWhile (· ≠ '=') =
      name := by
  have hblank : ∀ c ∈ before, decide (c ≠ ' ') = true :=
    fun c hc => decide_eq_true fun heq => hbefore (heq ▸ hc)
  have hequals : ∀ c ∈ name, decide (c ≠ '=') = true :=
    fun c hc => decide_eq_true fun heq => hname (heq ▸ hc)
  rw [List.dropWhile_append_of_pos hblank, List.dropWhile_cons_of_neg (by decide), List.drop_one,
    List.tail_cons, List.takeWhile_append_of_pos hequals, List.takeWhile_cons_of_neg (by decide),
    List.append_nil]

/-- What is written in quotation marks is found between them. -/
theorem attributesOf_splitOn {attributes : List (String × String)} (h : AreAttributes attributes)
    {before ending : List Char} (hbefore : ' ' ∉ before ∧ '"' ∉ before) (hending : '"' ∉ ending) :
    attributesOf ((before ++ (attributes.flatMap attrChars ++ ending)).splitOn '"') =
      attributes := by
  induction attributes generalizing before with
  | nil =>
    have hnone : '"' ∉ before ++ ending := by
      rw [List.mem_append]
      exact fun hmem => hmem.elim hbefore.2 hending
    rw [List.flatMap_nil, List.nil_append, List.splitOn_eq_singleton hnone, attributesOf]
    nofun
  | cons entry attributes ih =>
    obtain ⟨name, value⟩ := entry
    obtain ⟨⟨hname, hvalue⟩, hrest⟩ := List.forall_mem_cons.1 h
    -- The two quotation marks split off the name and the value, and leave the other attributes.
    have hsplit : before ++ (((name, value) :: attributes).flatMap attrChars ++ ending) =
        (before ++ ' ' :: (name.toList ++ ['='])) ++ '"' ::
          (value.toList ++ '"' :: ([] ++ (attributes.flatMap attrChars ++ ending))) := by
      simp [attrChars]
    have hquote : '"' ∉ name.toList := hname.not_mem (by decide)
    have hequals : '=' ∉ name.toList := hname.not_mem (by decide)
    have hfirst : '"' ∉ before ++ ' ' :: (name.toList ++ ['=']) := by
      simp [hbefore.2, hquote]
    rw [hsplit, List.splitOn_append_cons_self_of_not_mem hfirst,
      List.splitOn_append_cons_self_of_not_mem hvalue.1, attributesOf,
      takeWhile_name hbefore.1 hequals, ih hrest ⟨List.not_mem_nil, List.not_mem_nil⟩,
      String.ofList_toList, String.ofList_toList]

/-! ## Elements -/

variable {tag : String} {attributes : List (String × String)} {around : List Frame}
  {before : List Element}

/-- What stands between the angle brackets of a tag. -/
def tagChars (tag : String) (attributes : List (String × String)) (ending : List Char) :
    List Char :=
  tag.toList ++ (attributes.flatMap attrChars ++ ending)

theorem head?_tagChars (h : IsWord tag) {c : Char} (hc : c.isAlpha = false) (ending : List Char) :
    (tagChars tag attributes ending).head? ≠ some c := by
  obtain ⟨first, cs, hcs⟩ := List.exists_cons_of_ne_nil h.1
  rw [tagChars, hcs, List.cons_append, List.head?_cons]
  rintro ⟨⟩
  exact h.not_mem hc (hcs ▸ List.mem_cons_self)

theorem getLast?_tagChars (h : IsWord tag) :
    (tagChars tag attributes []).getLast? ≠ some '/' := by
  rw [tagChars, List.append_nil]
  rcases attributes.eq_nil_or_concat with rfl | ⟨attributes, entry, rfl⟩
  · rw [List.flatMap_nil, List.append_nil]
    exact fun hlast => h.not_mem (by decide) (List.mem_of_getLast? hlast)
  · -- The last attribute ends with a quotation mark.
    have hquote : attrChars entry =
        ' ' :: (entry.1.toList ++ '=' :: '"' :: entry.2.toList) ++ ['"'] := by
      simp [attrChars]
    rw [List.concat_eq_append, List.flatMap_append, List.flatMap_singleton, hquote,
      ← List.append_assoc, ← List.append_assoc, List.getLast?_concat]
    decide

theorem takeWhile_tagChars (h : IsWord tag) {ending : List Char}
    (hending : ending = [] ∨ ending = ['/']) :
    (tagChars tag attributes ending).takeWhile (fun c => c ≠ ' ' ∧ c ≠ '/') = tag.toList := by
  have htag : ∀ c ∈ tag.toList, decide (c ≠ ' ' ∧ c ≠ '/') = true := by
    refine fun c hc => decide_eq_true ⟨?_, ?_⟩ <;> rintro rfl
    · exact h.not_mem (by decide) hc
    · exact h.not_mem (by decide) hc
  rw [tagChars, List.takeWhile_append_of_pos htag]
  cases attributes with
  | nil => rcases hending with rfl | rfl <;> simp
  | cons entry attributes => simp [attrChars]

theorem attributesOf_tagChars (htag : IsWord tag) (hattributes : AreAttributes attributes)
    {ending : List Char} (hending : ending = [] ∨ ending = ['/']) :
    attributesOf ((tagChars tag attributes ending).splitOn '"') = attributes := by
  refine attributesOf_splitOn hattributes ⟨htag.not_mem (by decide), htag.not_mem (by decide)⟩ ?_
  rcases hending with rfl | rfl <;> decide

/-- A tag opens an element. -/
theorem takeTag_open (htag : IsWord tag) (hattributes : AreAttributes attributes) :
    Reading.takeTag ⟨around, before, none⟩ (tagChars tag attributes []) =
      ⟨⟨tag, attributes, before⟩ :: around, [], none⟩ := by
  rw [Reading.takeTag, takeWhile_tagChars htag (.inl rfl),
    attributesOf_tagChars htag hattributes (.inl rfl), String.ofList_toList]
  simp only
  rw [if_neg (head?_tagChars htag (by decide) _), if_neg (head?_tagChars htag (by decide) _),
    if_neg (getLast?_tagChars htag)]

/-- A tag that ends with a slash is a whole element. -/
theorem takeTag_leaf (htag : IsWord tag) (hattributes : AreAttributes attributes) :
    Reading.takeTag ⟨around, before, none⟩ (tagChars tag attributes ['/']) =
      ⟨around, before ++ [.node tag attributes []], none⟩ := by
  have hlast : (tagChars tag attributes ['/']).getLast? = some '/' := by
    rw [tagChars, ← List.append_assoc, List.getLast?_concat]
  rw [Reading.takeTag, takeWhile_tagChars htag (.inr rfl),
    attributesOf_tagChars htag hattributes (.inr rfl), String.ofList_toList]
  simp only
  rw [if_neg (head?_tagChars htag (by decide) _), if_neg (head?_tagChars htag (by decide) _),
    if_pos hlast]

/-- A tag that begins with a slash closes an element. -/
theorem takeTag_close (content : List Element) :
    Reading.takeTag ⟨⟨tag, attributes, before⟩ :: around, content, none⟩ ('/' :: tag.toList) =
      ⟨around, before ++ [.node tag attributes content], none⟩ := by
  rw [Reading.takeTag]
  simp [Reading.close]

theorem not_mem_tagChars (htag : IsWord tag) (hattributes : AreAttributes attributes)
    {ending : List Char} (hending : '>' ∉ ending) : '>' ∉ tagChars tag attributes ending := by
  have hentry : ∀ entry ∈ attributes, '>' ∉ attrChars entry := by
    intro entry hentry
    obtain ⟨hname, hvalue⟩ := hattributes entry hentry
    have hangle : '>' ∉ entry.1.toList := hname.not_mem (by decide)
    simp [attrChars, hangle, hvalue.2]
  have htagAngle : '>' ∉ tag.toList := htag.not_mem (by decide)
  rw [tagChars, List.mem_append, List.mem_append, List.mem_flatMap]
  rintro (hmem | ⟨entry, hmem, hangle⟩ | hmem)
  · exact htagAngle hmem
  · exact hentry entry hmem hangle
  · exact hending hmem

/-- What is written as an element is read as this element. -/
theorem reads_element {indent attributesText : String} {content : List String}
    {elements : List Element} (hindent : '<' ∉ indent.toList) (htag : IsWord tag)
    (hattributes : AreAttributes attributes)
    (htext : attributesText.toList = attributes.flatMap attrChars)
    (hcontent : Reads (String.join content) elements) :
    Reads (element indent tag attributesText content) [.node tag attributes elements] := by
  intro around before
  rw [element]
  split
  next hempty =>
    -- An element without content is closed at once.
    obtain rfl := List.isEmpty_iff.1 hempty
    obtain rfl : [] = elements := congrArg Reading.content (hcontent [] [])
    have hchars : (indent ++ "<" ++ tag ++ attributesText ++ "/>\n").toList =
        indent.toList ++ '<' :: (tagChars tag attributes ['/'] ++ '>' :: ['\n']) := by
      simp [tagChars, htext]
    rw [hchars, foldl_step_angles hindent (not_mem_tagChars htag hattributes (by decide)),
      takeTag_leaf htag hattributes, foldl_step_blank (by decide)]
  next =>
    -- Its tag, its content and the closing tag are read one after the other.
    have hchars : (indent ++ "<" ++ tag ++ attributesText ++ ">\n" ++ String.join content ++
        indent ++ "</" ++ tag ++ ">\n").toList =
        indent.toList ++ '<' :: (tagChars tag attributes [] ++ '>' :: (['\n'] ++
          ((String.join content).toList ++
            (indent.toList ++ '<' :: ('/' :: tag.toList ++ '>' :: ['\n']))))) := by
      simp [tagChars, htext]
    have hclose : '>' ∉ '/' :: tag.toList := by
      have hangle : '>' ∉ tag.toList := htag.not_mem (by decide)
      simp [hangle]
    rw [hchars, foldl_step_angles hindent (not_mem_tagChars htag hattributes List.not_mem_nil),
      takeTag_open htag hattributes, List.foldl_append, foldl_step_blank (by decide),
      List.foldl_append, hcontent, List.nil_append, foldl_step_angles hindent hclose, takeTag_close,
      foldl_step_blank (by decide)]

end VpnTray.Bus
