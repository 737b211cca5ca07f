import Mathlib.Data.List.Infix
import VpnTray.Desktop

/-!
# Texts in markup

Three characters have a meaning in markup and are written by their names, of which each begins with
an ampersand. They are replaced one after the other in the whole text, the ampersand first, so that
no replacement finds anything in the names that are there already: together they replace each
character of the text on its own (`escapeMarkup_eq`).

The names can be put back in the opposite order. Each replacement adds a character to those that are
written by their names (`replace_substitute`), and putting its name back takes it away again
(`restore_substitute`).
-/

namespace VpnTray

open Text

/-- A character with a meaning in markup. -/
inductive Special
  | ampersand
  | less
  | greater
deriving DecidableEq, Repr

namespace Special

/-- The character itself. -/
def char : Special → Char
  | ampersand => '&'
  | less => '<'
  | greater => '>'

/-- What follows the ampersand in the name of a character. -/
def letters : Special → Text
  | ampersand => "amp;"
  | less => "lt;"
  | greater => "gt;"

/-- The name of a character. -/
def name (special : Special) : Text := '&' :: special.letters

variable {special other : Special} {rest text : Text}

theorem char_injective : Function.Injective char := by
  intro special other h
  cases special <;> cases other <;> first | rfl | exact absurd h (by decide)

theorem ampersand_notMem_letters : '&' ∉ special.letters := by cases special <;> decide

/-- No name begins another one, whatever follows it. -/
theorem not_prefix_name (h : special ≠ other) : ¬ special.name <+: other.name ++ rest := by
  cases special <;> cases other <;> first | contradiction | simp [name, letters]

end Special

/-! ## Putting names in -/

/-- A character as it stands in a text in which some characters are written by their names. -/
def named (specials : List Special) (c : Char) : Text :=
  match specials.find? fun special => special.char = c with
  | some special => special.name
  | none => [c]

/-- A text in which some characters are written by their names. -/
def substitute (specials : List Special) (text : Text) : Text := text.flatMap (named specials)

section Substitute

variable {special : Special} {specials : List Special} {c : Char} {text : Text}

theorem named_cons (special : Special) (specials : List Special) (c : Char) :
    named (special :: specials) c =
      if special.char = c then special.name else named specials c := by
  rw [named, List.find?_cons]
  by_cases h : special.char = c <;> simp [h, named]

/-- A character is written by its name, or as itself if it is none of those. -/
theorem named_cases (specials : List Special) (c : Char) :
    (∃ special ∈ specials, special.char = c ∧ named specials c = special.name) ∨
      (∀ special ∈ specials, special.char ≠ c) ∧ named specials c = [c] := by
  rw [named]
  split
  next special h =>
    exact .inl ⟨special, List.mem_of_find?_eq_some h, by simpa using List.find?_some h, rfl⟩
  next h => exact .inr ⟨by simpa using h, rfl⟩

theorem substitute_cons (specials : List Special) (c : Char) (text : Text) :
    substitute specials (c :: text) = named specials c ++ substitute specials text :=
  List.flatMap_cons

theorem replace_of_notMem {old : Char} (new : Text) (h : old ∉ text) :
    replace old new text = text := by
  induction text with
  | nil => rfl
  | cons c text ih =>
    rw [List.mem_cons, not_or] at h
    rw [replace_cons, if_neg (Ne.symm h.1), ih h.2, List.singleton_append]

/-- One more character is replaced by its name, if it is in no name that is there already. -/
theorem replace_substitute (special : Special) (h : ∀ other ∈ specials, special.char ∉ other.name)
    (text : Text) :
    replace special.char special.name (substitute specials text) =
      substitute (special :: specials) text := by
  rw [replace, substitute, List.flatMap_assoc, substitute]
  congr 1
  funext c
  change replace _ _ _ = _
  rw [named_cons]
  obtain ⟨other, hmem, rfl, heq⟩ | ⟨-, heq⟩ := named_cases specials c
  · rw [heq, replace_of_notMem _ (h other hmem)]
    split
    next hchar => rw [Special.char_injective hchar]
    next => rfl
  · rw [heq]
    simp [replace, eq_comm]

/-- The replacements, one after the other, replace each character on its own. -/
theorem escapeMarkup_eq (text : Text) :
    escapeMarkup text = substitute [.greater, .less, .ampersand] text := by
  have hnone : substitute [] text = text := List.flatMap_singleton' text
  have hampersand : replace '&' "&amp;" text = substitute [.ampersand] text := by
    rw [← hnone]
    exact (replace_substitute .ampersand (by decide) text).trans (by rw [hnone])
  have hless : replace '<' "&lt;" (substitute [.ampersand] text) =
      substitute [.less, .ampersand] text :=
    replace_substitute .less (by decide) text
  have hgreater : replace '>' "&gt;" (substitute [.less, .ampersand] text) =
      substitute [.greater, .less, .ampersand] text :=
    replace_substitute .greater (by decide) text
  rw [escapeMarkup, hampersand, hless, hgreater]

theorem char_notMem_substitute (special : Special) (hmem : special ∈ specials)
    (h : ∀ other ∈ specials, special.char ∉ other.name) (text : Text) :
    special.char ∉ substitute specials text := by
  rw [substitute, List.mem_flatMap]
  rintro ⟨c, -, hc⟩
  obtain ⟨other, hother, -, heq⟩ | ⟨hne, heq⟩ := named_cases specials c
  · exact h other hother (heq ▸ hc)
  · rw [heq, List.mem_singleton] at hc
    exact hne special hmem hc

end Substitute

/-! ## Ampersands -/

theorem suffix_of_suffix_append {front more rest : Text} (hfront : '&' ∉ front)
    (h : '&' :: rest <:+ front ++ more) : '&' :: rest <:+ more := by
  induction front with
  | nil => exact h
  | cons c front ih =>
    rw [List.mem_cons, not_or] at hfront
    rw [List.cons_append, List.suffix_cons_iff] at h
    rcases h with h | h
    · exact absurd (List.cons.inj h).1 hfront.1
    · exact ih hfront.2 h

/-- Once the ampersand itself is replaced, each ampersand begins a name. -/
theorem exists_name_prefix {specials : List Special} (hmem : .ampersand ∈ specials)
    {text rest : Text} (h : '&' :: rest <:+ substitute specials text) :
    ∃ special ∈ specials, special.name <+: '&' :: rest := by
  induction text with
  | nil => exact absurd (List.suffix_nil.1 h) (List.cons_ne_nil _ _)
  | cons c text ih =>
    rw [substitute_cons] at h
    obtain ⟨special, hspecial, -, heq⟩ | ⟨hne, heq⟩ := named_cases specials c
    · rw [heq, Special.name, List.cons_append, List.suffix_cons_iff] at h
      rcases h with h | h
      · exact ⟨special, hspecial, h ▸ List.prefix_append special.name _⟩
      · exact ih (suffix_of_suffix_append Special.ampersand_notMem_letters h)
    · rw [heq] at h
      have hc : '&' ∉ [c] := fun hc => hne .ampersand hmem (List.mem_singleton.1 hc)
      exact ih (suffix_of_suffix_append hc h)

/-! ## Putting characters back -/

/-- Every occurrence of the name of a character, from left to right, replaced by the character. -/
def restore (special : Special) : Text → Text
  | [] => []
  | c :: text =>
    match _h : special.name.isPrefixOf? (c :: text) with
    | some rest => special.char :: restore special rest
    | none => c :: restore special text
termination_by text => text.length
decreasing_by
  · have hlength := congrArg List.length (List.isPrefixOf?_eq_some_iff_append_eq.1 _h)
    rw [List.length_append, Special.name, List.length_cons] at hlength
    omega
  · simp

/-- A text without names, where the ampersand comes last: it is in the names of the others. -/
def unescapeMarkup (text : Text) : Text :=
  restore .ampersand (restore .less (restore .greater text))

section Restore

variable {special other : Special} {specials : List Special} {c : Char} {text : Text}

@[simp] theorem restore_nil : restore special [] = [] := by rw [restore]

theorem restore_name_append (special : Special) (text : Text) :
    restore special (special.name ++ text) = special.char :: restore special text := by
  have hprefix : special.name.isPrefixOf? (special.name ++ text) = some text :=
    List.isPrefixOf?_eq_some_iff_append_eq.2 rfl
  rw [Special.name, List.cons_append] at hprefix ⊢
  rw [restore]
  split
  next rest h => rw [Special.name, hprefix] at h; rw [Option.some.inj h]
  next h => rw [Special.name, hprefix] at h; cases h

theorem restore_cons (h : ¬ special.name <+: c :: text) :
    restore special (c :: text) = c :: restore special text := by
  rw [restore]
  split
  next rest hrest => exact absurd ⟨rest, List.isPrefixOf?_eq_some_iff_append_eq.1 hrest⟩ h
  next => rfl

theorem restore_append_of_notMem (h : '&' ∉ text) (rest : Text) :
    restore special (text ++ rest) = text ++ restore special rest := by
  induction text with
  | nil => rfl
  | cons c text ih =>
    rw [List.mem_cons, not_or] at h
    have hprefix : ¬ special.name <+: c :: (text ++ rest) := fun hprefix =>
      h.1 (List.cons_prefix_cons.1 hprefix).1
    rw [List.cons_append, restore_cons hprefix, ih h.2, List.cons_append]

theorem restore_other_append (h : special ≠ other) (rest : Text) :
    restore special (other.name ++ rest) = other.name ++ restore special rest := by
  have hprefix : ¬ special.name <+: '&' :: (other.letters ++ rest) := Special.not_prefix_name h
  rw [Special.name, List.cons_append, restore_cons hprefix,
    restore_append_of_notMem Special.ampersand_notMem_letters, List.cons_append]

/-- One character is put back in the place of its name. -/
theorem restore_substitute (hnew : special ∉ specials) (hmem : .ampersand ∈ special :: specials)
    (text : Text) :
    restore special (substitute (special :: specials) text) = substitute specials text := by
  induction text with
  | nil => exact restore_nil
  | cons c text ih =>
    rw [substitute_cons, substitute_cons, named_cons, ← ih]
    obtain ⟨other, hother, rfl, heq⟩ | ⟨hne, heq⟩ := named_cases specials c
    · -- The name of another character stays, although it begins with an ampersand, too.
      have hspecial : special ≠ other := fun h => hnew (h ▸ hother)
      rw [heq, if_neg (Special.char_injective.ne hspecial), restore_other_append hspecial]
    · rw [heq]
      split
      next hchar => rw [restore_name_append, hchar]; rfl
      next hchar =>
        -- A character that is left is no ampersand, so that it begins no name.
        have hc : '&' ∉ [c] := by
          rw [List.mem_singleton]
          rintro rfl
          rcases List.mem_cons.1 hmem with rfl | hmem
          · exact hchar rfl
          · exact hne .ampersand hmem rfl
        exact restore_append_of_notMem hc _

theorem unescapeMarkup_escapeMarkup (text : Text) : unescapeMarkup (escapeMarkup text) = text := by
  rw [unescapeMarkup, escapeMarkup_eq, restore_substitute (by decide) (by decide),
    restore_substitute (by decide) (by decide), restore_substitute (by decide) (by decide)]
  exact List.flatMap_singleton' text

end Restore

/-! ## Escaping -/

/-- The markup of a text stands for this text, and has no meaning as markup. -/
structure Escaped (text : Text) : Prop where
  /-- Each character is replaced by its name if it has a meaning in markup, and kept otherwise. -/
  eq : escapeMarkup text = text.flatMap fun c =>
    if c = '&' then "&amp;".toList else if c = '<' then "&lt;".toList
    else if c = '>' then "&gt;".toList else [c]
  /-- A text is escaped piece by piece. -/
  append : ∀ more, escapeMarkup (text ++ more) = escapeMarkup text ++ escapeMarkup more
  /-- Nothing opens a tag. -/
  less : '<' ∉ escapeMarkup text
  /-- Nothing closes a tag. -/
  greater : '>' ∉ escapeMarkup text
  /-- Wherever there is an ampersand, it begins a name. -/
  ampersand : ∀ rest, '&' :: rest <:+ escapeMarkup text →
    "&amp;".toList <+: '&' :: rest ∨ "&lt;".toList <+: '&' :: rest ∨ "&gt;".toList <+: '&' :: rest
  /-- With the characters in the places of their names, it is the text again. -/
  restored : unescapeMarkup (escapeMarkup text) = text
  /-- Other texts have other markup. -/
  distinct : ∀ other, escapeMarkup other = escapeMarkup text → other = text

theorem named_all (c : Char) :
    named [.greater, .less, .ampersand] c =
      if c = '&' then "&amp;".toList else if c = '<' then "&lt;".toList
      else if c = '>' then "&gt;".toList else [c] := by
  split_ifs with hampersand hless hgreater
  · rw [hampersand]; rfl
  · rw [hless]; rfl
  · rw [hgreater]; rfl
  · obtain ⟨special, -, rfl, -⟩ | ⟨-, heq⟩ := named_cases [.greater, .less, .ampersand] c
    · cases special with
      | ampersand => exact absurd rfl hampersand
      | less => exact absurd rfl hless
      | greater => exact absurd rfl hgreater
    · exact heq

/-- Every text is escaped. -/
theorem escaped_escapeMarkup (text : Text) : Escaped text where
  eq := by
    rw [escapeMarkup_eq, substitute]
    exact congrArg (List.flatMap · text) (funext named_all)
  append more := by
    rw [escapeMarkup_eq, escapeMarkup_eq, escapeMarkup_eq]
    exact List.flatMap_append
  less := by
    rw [escapeMarkup_eq]
    exact char_notMem_substitute .less (by decide) (by decide) text
  greater := by
    rw [escapeMarkup_eq]
    exact char_notMem_substitute .greater (by decide) (by decide) text
  ampersand rest h := by
    rw [escapeMarkup_eq] at h
    obtain ⟨special, -, hprefix⟩ := exists_name_prefix (by decide) h
    cases special with
    | ampersand => exact .inl hprefix
    | less => exact .inr (.inl hprefix)
    | greater => exact .inr (.inr hprefix)
  restored := unescapeMarkup_escapeMarkup text
  distinct other h := by
    rw [← unescapeMarkup_escapeMarkup other, h, unescapeMarkup_escapeMarkup]

/-- A name that is in the text already is a text like any other. -/
example : escapeMarkup "a &lt; <b>".toList = "a &amp;lt; &lt;b&gt;".toList := by decide

end VpnTray
