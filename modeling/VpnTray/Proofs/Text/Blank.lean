import Mathlib.Data.List.DropRight
import VpnTray.Text.Lines

/-!
# Blanks around a text

A text is trimmed before it is used. What is left neither begins nor ends with a blank
(`trimmed_trim`), and a text of which this is true is not changed by blanks that are put
around it and trimmed again (`trim_append_append`).

Every text is such a text between blanks (`exists_blanks`). So blanks at either end make no
difference to what is left (`trim_append_left`, `trim_append_right`), and nothing is left of a
text of blanks alone (`trim_eq_nil_iff`).
-/

namespace VpnTray.Text

/-! ## Dropping from both ends -/

section Ends

variable {α : Type} {p : α → Bool} {xs front back : List α}

theorem dropWhile_of_head (h : ∀ x ∈ xs.head?, p x = false) : xs.dropWhile p = xs := by
  cases xs with
  | nil => rfl
  | cons x xs => exact List.dropWhile_cons_of_neg (by simp [h x rfl])

/-- What is dropped from both ends of a list does not matter for what is left. -/
theorem rdropWhile_dropWhile_append (hfront : ∀ x ∈ front, p x)
    (hhead : ∀ x ∈ xs.head?, p x = false) (hlast : ∀ x ∈ xs.getLast?, p x = false)
    (hback : ∀ x ∈ back, p x) : ((front ++ xs ++ back).dropWhile p).rdropWhile p = xs := by
  have hend : (xs ++ back).rdropWhile p = xs := by
    rw [List.rdropWhile, List.reverse_append,
      List.dropWhile_append_of_pos fun x hx => hback x (List.mem_reverse.1 hx),
      dropWhile_of_head fun x hx => hlast x (List.head?_reverse ▸ hx), List.reverse_reverse]
  rw [List.append_assoc, List.dropWhile_append_of_pos hfront]
  cases xs with
  | nil => rw [List.nil_append, List.dropWhile_eq_nil_iff.2 hback, List.rdropWhile_nil]
  | cons x xs => rwa [dropWhile_of_head (by exact hhead)]

/-- A list is what is left when its ends are dropped, between them. -/
theorem exists_eq_append_rdropWhile_dropWhile (p : α → Bool) (xs : List α) :
    ∃ front back, (∀ x ∈ front, p x) ∧ (∀ x ∈ back, p x) ∧
      xs = front ++ (xs.dropWhile p).rdropWhile p ++ back := by
  refine ⟨xs.takeWhile p, (xs.dropWhile p).rtakeWhile p, ?_, ?_, ?_⟩
  · exact fun x hx => List.mem_takeWhile_imp hx
  · exact fun x hx => List.mem_rtakeWhile_imp hx
  · rw [List.append_assoc, List.rdropWhile_append_rtakeWhile, List.takeWhile_append_dropWhile]

theorem of_mem_getLast?_rdropWhile {x : α} (h : x ∈ (xs.rdropWhile p).getLast?) :
    p x = false := by
  have hnot := List.head?_dropWhile_not p xs.reverse
  rw [List.rdropWhile, List.getLast?_reverse] at h
  rw [Option.mem_def.1 h] at hnot
  simpa using hnot

theorem of_mem_head?_rdropWhile_dropWhile {x : α}
    (h : x ∈ ((xs.dropWhile p).rdropWhile p).head?) : p x = false := by
  have hnot := List.head?_dropWhile_not p xs
  -- What is left begins like the list without its front.
  have hstart : x ∈ (xs.dropWhile p).head? := by
    obtain ⟨back, hback⟩ := List.rdropWhile_prefix p (xs.dropWhile p)
    rw [← hback, List.head?_append, Option.mem_def.1 h]
    rfl
  rw [Option.mem_def.1 hstart] at hnot
  simpa using hnot

end Ends

/-! ## Blanks -/

variable {p : Char → Bool} {c : Char} {cs front back : List Char}

/-- The characters of a line end are blank. -/
theorem ne_lineEnd (h : isBlank c = false) : c ≠ '\r' ∧ c ≠ '\n' := by
  constructor
  · rintro rfl
    exact absurd h (by decide)
  · rintro rfl
    exact absurd h (by decide)

theorem dropTail_eq_rdropWhile (p : Char → Bool) (cs : List Char) :
    dropTail p cs = cs.rdropWhile p := rfl

/-- A text that neither begins nor ends with a blank. -/
structure Trimmed (cs : List Char) : Prop where
  head : ∀ c ∈ cs.head?, isBlank c = false
  last : ∀ c ∈ cs.getLast?, isBlank c = false

instance (cs : List Char) : Decidable (Trimmed cs) :=
  haveI : Decidable (∀ c ∈ cs.head?, isBlank c = false) := Option.decidableForallMem _
  haveI : Decidable (∀ c ∈ cs.getLast?, isBlank c = false) := Option.decidableForallMem _
  decidable_of_iff ((∀ c ∈ cs.head?, isBlank c = false) ∧ ∀ c ∈ cs.getLast?, isBlank c = false)
    ⟨fun h => ⟨h.1, h.2⟩, fun h => ⟨h.head, h.last⟩⟩

theorem trimmed_of_noBlank (h : ∀ c ∈ cs, isBlank c = false) : Trimmed cs where
  head c hc := h c (List.mem_of_mem_head? hc)
  last c hc := h c (List.mem_of_getLast? hc)

theorem trimmed_trim (cs : List Char) : Trimmed (trim cs) where
  head _ := of_mem_head?_rdropWhile_dropWhile
  last _ := of_mem_getLast?_rdropWhile

/-- The blanks around a text that neither begins nor ends with one go, and nothing else. -/
theorem trim_append_append (hfront : ∀ c ∈ front, isBlank c) (h : Trimmed cs)
    (hback : ∀ c ∈ back, isBlank c) : trim (front ++ cs ++ back) = cs :=
  rdropWhile_dropWhile_append hfront h.head h.last hback

theorem Trimmed.trim_eq (h : Trimmed cs) : trim cs = cs := by
  have htrim : trim ([] ++ cs ++ []) = cs := trim_append_append nofun h nofun
  rwa [List.append_nil] at htrim

/-- There is nothing in a text but blanks. -/
def Blank (cs : List Char) : Prop := ∀ c ∈ cs, isBlank c

/-- Only the characters of the text are looked at, not all that there are. -/
instance (cs : List Char) : Decidable (Blank cs) := List.decidableBAll _ cs

/-- A text is what is left of it when it is trimmed, between blanks. -/
theorem exists_blanks (cs : List Char) :
    ∃ front back, Blank front ∧ Blank back ∧ cs = front ++ trim cs ++ back :=
  exists_eq_append_rdropWhile_dropWhile isBlank cs

theorem mem_of_mem_trim (h : c ∈ trim cs) : c ∈ cs := by
  obtain ⟨front, back, -, -, hcs⟩ := exists_blanks cs
  rw [hcs]
  exact List.mem_append_left _ (List.mem_append_right _ h)

theorem trim_append_left (h : Blank front) : trim (front ++ cs) = trim cs := by
  obtain ⟨before, after, hbefore, hafter, hcs⟩ := exists_blanks cs
  have hfront : Blank (front ++ before) := List.forall_mem_append.2 ⟨h, hbefore⟩
  have htrim := trim_append_append hfront (trimmed_trim cs) hafter
  rwa [List.append_assoc front, List.append_assoc, ← hcs] at htrim

theorem trim_append_right (h : Blank back) : trim (cs ++ back) = trim cs := by
  obtain ⟨before, after, hbefore, hafter, hcs⟩ := exists_blanks cs
  have hback : Blank (after ++ back) := List.forall_mem_append.2 ⟨hafter, h⟩
  have htrim := trim_append_append hbefore (trimmed_trim cs) hback
  rwa [← List.append_assoc, ← hcs] at htrim

/-- The end of a line goes, and nothing else of a text without blanks. -/
theorem trim_line (h : ∀ c ∈ cs, isBlank c = false) : trim (cs ++ ['\n']) = cs := by
  have hend : Blank ['\n'] := List.forall_mem_singleton.2 rfl
  rw [trim_append_right hend, (trimmed_of_noBlank h).trim_eq]

theorem trim_eq_nil_iff : trim cs = [] ↔ Blank cs := by
  constructor
  · intro h
    obtain ⟨front, back, hfront, hback, hcs⟩ := exists_blanks cs
    rw [hcs, h, List.append_nil]
    exact List.forall_mem_append.2 ⟨hfront, hback⟩
  · intro h
    have htrim : trim (cs ++ []) = [] := trim_append_left h
    rwa [List.append_nil] at htrim

/-! ## Blanks at the end -/

/-- A text is what is left of it without the blanks at the end, and those blanks. -/
theorem exists_blanks_right (cs : List Char) : ∃ back, Blank back ∧ cs = trimEnd cs ++ back :=
  ⟨cs.rtakeWhile isBlank, fun _ hc => List.mem_rtakeWhile_imp hc,
    List.rdropWhile_append_rtakeWhile.symm⟩

theorem trimEnd_append_right (h : Blank back) : trimEnd (cs ++ back) = trimEnd cs := by
  rw [trimEnd, dropTail, List.reverse_append,
    List.dropWhile_append_of_pos fun c hc => h c (List.mem_reverse.1 hc)]
  rfl

theorem trimEnd_eq_nil_iff : trimEnd cs = [] ↔ Blank cs := List.rdropWhile_eq_nil_iff

theorem trim_trimEnd (cs : List Char) : trim (trimEnd cs) = trim cs := by
  obtain ⟨back, hback, hcs⟩ := exists_blanks_right cs
  have htrim : trim (trimEnd cs ++ back) = trim (trimEnd cs) := trim_append_right hback
  rw [← htrim, ← hcs]

/-- The blanks in front of a text end before another text that follows it, unless there is nothing
    else in it. -/
theorem trimStart_append (h : ¬ Blank cs) (ds : List Char) :
    trimStart (cs ++ ds) = trimStart cs ++ ds := by
  have hne : cs.dropWhile isBlank ≠ [] := mt List.dropWhile_eq_nil_iff.1 h
  rw [trimStart, List.dropWhile_append, if_neg (by simpa using hne), trimStart]

/-- What a text without blanks at its end ends with has none there either. -/
theorem Trimmed.trimEnd_right (h : Trimmed (front ++ cs)) : trimEnd cs = cs := by
  refine List.rdropWhile_eq_self_iff.2 fun hne => Bool.eq_false_iff.1 (h.last _ ?_)
  rw [List.getLast?_append_of_ne_nil front hne]
  exact List.getLast?_eq_some_getLast hne

/-- It can have blanks in front only. -/
theorem Trimmed.trim_right (h : Trimmed (front ++ cs)) : trim cs = trimStart cs := by
  have hcs : front ++ cs = front ++ cs.takeWhile isBlank ++ trimStart cs := by
    rw [List.append_assoc, trimStart, List.takeWhile_append_dropWhile]
  rw [hcs] at h
  exact h.trimEnd_right

/-! ## Texts of blanks alone -/

theorem isEmpty_trim (cs : List Char) : (trim cs).isEmpty = decide (Blank cs) := by
  rw [Bool.eq_iff_iff, List.isEmpty_iff, decide_eq_true_iff, trim_eq_nil_iff]

/-- A text that begins with no blank is not trimmed to nothing. -/
theorem trim_cons_ne_nil (h : isBlank c = false) (cs : List Char) : trim (c :: cs) ≠ [] := by
  intro hnil
  have hblank : Blank (c :: cs) := trim_eq_nil_iff.1 hnil
  exact Bool.false_ne_true (h.symm.trans (hblank c List.mem_cons_self))

theorem not_blank_of_mem (hmem : c ∈ cs) (hc : isBlank c = false) : ¬ Blank cs := fun h =>
  Bool.false_ne_true (hc.symm.trans (h c hmem))

theorem Trimmed.eq_nil_of_blank (h : Trimmed cs) (hblank : Blank cs) : cs = [] :=
  h.trim_eq.symm.trans (trim_eq_nil_iff.2 hblank)

/-- Texts are not blank when they are put together, if there are any and none of them is. -/
theorem not_blank_intercalate {texts : List (List Char)} (sep : List Char)
    (h : ∀ text ∈ texts, ¬ Blank text) (hne : texts ≠ []) : ¬ Blank (sep.intercalate texts) := by
  obtain ⟨first, rest, rfl⟩ := List.exists_cons_of_ne_nil hne
  have hstart : first <+: sep.intercalate (first :: rest) := by
    cases rest with
    | nil => exact List.intercalate_singleton ▸ List.prefix_rfl
    | cons next rest =>
      rw [List.intercalate_cons_cons, List.append_assoc]
      exact List.prefix_append ..
  exact fun hblank => h first List.mem_cons_self fun c hc => hblank c (hstart.mem hc)

theorem trimmed_of_mem_cells {cell : List Char} (h : cell ∈ cells cs) : Trimmed cell := by
  obtain ⟨piece, -, rfl⟩ := List.mem_map.1 h
  exact trimmed_trim piece

end VpnTray.Text
