import VpnTray.Proofs.Text.Cells

/-!
# Words

A text is a row of words with blanks between them. A blank ends a word wherever it stands
(`words_append_blank`), blanks at either end make no difference (`words_trim`), and all that is not
a blank is in the words (`count_flatten_words`).

Texts can be put together with a comma and a space between them. The comma makes the last word of
each text longer, and the space ends it, so that there are as many words as before
(`length_words_intercalate`).
-/

namespace VpnTray.Text

variable {c : Char} {cs ds front back word : List Char} {texts : List (List Char)}

/-! ## Words and blanks -/

@[simp] theorem words_nil : words [] = [] := rfl

/-- A blank stands between words. -/
theorem words_append_blank (hc : isBlank c) (cs ds : List Char) :
    words (cs ++ c :: ds) = words cs ++ words ds := by
  rw [words, List.splitOnP_append_cons _ _ hc, List.filter_append]
  rfl

theorem words_cons_blank (hc : isBlank c) (cs : List Char) : words (c :: cs) = words cs :=
  words_append_blank hc [] cs

/-- A text without blanks is a word. -/
theorem words_of_noBlank (hword : ∀ c ∈ word, isBlank c = false) (hne : word ≠ []) :
    words word = [word] := by
  rw [words, List.splitOnP_eq_singleton hword]
  exact List.filter_cons_of_pos (by simpa using hne)

theorem noBlank_of_mem_words (h : word ∈ words cs) : word ≠ [] ∧ ∀ c ∈ word, isBlank c = false := by
  obtain ⟨hmem, hne⟩ := List.mem_filter.1 h
  exact ⟨by simpa using hne, fun c hc => (of_mem_splitOnP hmem c hc).2⟩

theorem not_blank_of_mem_words (h : word ∈ words cs) : ¬ Blank word := by
  obtain ⟨hne, hnoBlank⟩ := noBlank_of_mem_words h
  exact fun hblank => hne ((trimmed_of_noBlank hnoBlank).eq_nil_of_blank hblank)

theorem words_of_mem_words (h : word ∈ words cs) : words word = [word] := by
  obtain ⟨hne, hword⟩ := noBlank_of_mem_words h
  exact words_of_noBlank hword hne

theorem words_append_left (h : Blank front) (cs : List Char) : words (front ++ cs) = words cs := by
  induction front with
  | nil => rfl
  | cons c front ih =>
    obtain ⟨hc, hfront⟩ := List.forall_mem_cons.1 h
    rw [List.cons_append, words_cons_blank hc, ih hfront]

theorem words_of_blank (h : Blank back) : words back = [] := by
  have hwords := words_append_left h []
  rwa [List.append_nil] at hwords

theorem words_append_right (h : Blank back) (cs : List Char) : words (cs ++ back) = words cs := by
  cases back with
  | nil => rw [List.append_nil]
  | cons c back =>
    obtain ⟨hc, hback⟩ := List.forall_mem_cons.1 h
    rw [words_append_blank hc, words_of_blank hback, List.append_nil]

theorem words_trim (cs : List Char) : words (trim cs) = words cs := by
  obtain ⟨front, back, hfront, hback, hcs⟩ := exists_blanks cs
  conv_rhs => rw [hcs]
  rw [words_append_right hback, words_append_left hfront]

/-- What begins behind a blank is a word up to the next one. -/
theorem words_append_word (hlast : ∀ c ∈ cs.getLast?, isBlank c)
    (hword : ∀ c ∈ word, isBlank c = false) (hne : word ≠ []) :
    words (cs ++ word) = words cs ++ [word] := by
  rcases List.eq_nil_or_concat cs with rfl | ⟨init, last, rfl⟩
  · exact words_of_noBlank hword hne
  · have hblank : isBlank last := hlast last (by simp)
    rw [List.concat_eq_append, List.append_assoc, List.singleton_append, words_append_blank hblank,
      words_append_blank hblank, words_of_noBlank hword hne, words_nil, List.append_nil]

/-- A text that does not end with a blank ends with a word. -/
theorem exists_last_word (h : Trimmed cs) (hne : cs ≠ []) :
    ∃ init word, cs = init ++ word ∧ (∀ c ∈ init.getLast?, isBlank c) ∧
      (∀ c ∈ word, isBlank c = false) ∧ word ≠ [] := by
  refine ⟨cs.rdropWhile (!isBlank ·), cs.rtakeWhile (!isBlank ·),
    List.rdropWhile_append_rtakeWhile.symm, ?_, ?_, ?_⟩
  · exact fun c hc => by simpa using of_mem_getLast?_rdropWhile hc
  · exact fun c hc => by simpa using List.mem_rtakeWhile_imp hc
  · have hlast := h.last _ (List.getLast?_eq_some_getLast hne)
    rw [ne_eq, List.rtakeWhile_eq_nil_iff]
    exact fun hnone => hnone hne (by simpa using hlast)

theorem words_ne_nil (h : Trimmed cs) (hne : cs ≠ []) : words cs ≠ [] := by
  obtain ⟨init, word, rfl, hinit, hword, hword_ne⟩ := exists_last_word h hne
  rw [words_append_word hinit hword hword_ne]
  exact List.append_ne_nil_of_right_ne_nil _ (List.cons_ne_nil word [])

theorem words_eq_nil_iff : words cs = [] ↔ Blank cs := by
  refine ⟨fun h => trim_eq_nil_iff.1 ?_, words_of_blank⟩
  by_contra hne
  exact words_ne_nil (trimmed_trim cs) hne ((words_trim cs).trans h)

/-- A text of one word, without blanks at either end, is that word. -/
theorem words_of_length_le_one (h : Trimmed cs) (hne : cs ≠ []) (hle : (words cs).length ≤ 1) :
    words cs = [cs] := by
  obtain ⟨init, word, rfl, hinit, hword, hword_ne⟩ := exists_last_word h hne
  rw [words_append_word hinit hword hword_ne] at hle ⊢
  have hnil : words init = [] := by
    rw [List.length_append, List.length_singleton] at hle
    exact List.eq_nil_of_length_eq_zero (by omega)
  have hblank : Blank init := words_eq_nil_iff.1 hnil
  have hall : init ++ word = word := by
    rw [← h.trim_eq, trim_append_left hblank, (trimmed_of_noBlank hword).trim_eq]
  rw [hnil, hall, List.nil_append]

/-- What stands right behind a text that does not end with a blank makes its last word longer. -/
theorem length_words_append (h : Trimmed cs) (hne : cs ≠ []) (hds : ∀ c ∈ ds, isBlank c = false) :
    (words (cs ++ ds)).length = (words cs).length := by
  obtain ⟨init, word, rfl, hinit, hword, hword_ne⟩ := exists_last_word h hne
  have hlonger : ∀ c ∈ word ++ ds, isBlank c = false := List.forall_mem_append.2 ⟨hword, hds⟩
  have hlonger_ne := List.append_ne_nil_of_left_ne_nil hword_ne ds
  rw [List.append_assoc, words_append_word hinit hlonger hlonger_ne,
    words_append_word hinit hword hword_ne, List.length_append, List.length_append]
  rfl

/-! ## What is in the words -/

theorem count_flatten_splitOnP {p : Char → Bool} (hc : p c = false) (cs : List Char) :
    (cs.splitOnP p).flatten.count c = cs.count c := by
  induction cs with
  | nil => rfl
  | cons d cs ih =>
    rw [List.splitOnP_cons_eq_if_modifyHead]
    split
    · next hd =>
      have hne : d ≠ c := by
        rintro rfl
        exact Bool.false_ne_true (hc.symm.trans hd)
      rw [List.flatten_cons, List.nil_append, ih, List.count_cons_of_ne hne]
    · next hd =>
      obtain ⟨first, rest, hcs⟩ := List.exists_cons_of_ne_nil (List.splitOnP_ne_nil p cs)
      rw [hcs, List.flatten_cons] at ih
      rw [hcs, List.modifyHead_cons, List.flatten_cons, List.cons_append, List.count_cons, ih,
        List.count_cons]

/-- What is not a blank is as often in the words as in the text. -/
theorem count_flatten_words (hc : isBlank c = false) (cs : List Char) :
    (words cs).flatten.count c = cs.count c := by
  rw [words, List.flatten_filter_not_isEmpty, count_flatten_splitOnP hc]

theorem count_flatten_flatMap_words (hc : isBlank c = false) (texts : List (List Char)) :
    (texts.flatMap words).flatten.count c = texts.flatten.count c := by
  induction texts with
  | nil => rfl
  | cons text texts ih =>
    rw [List.flatMap_cons, List.flatten_append, List.count_append, List.flatten_cons,
      List.count_append, ih, count_flatten_words hc]

/-! ## The words of several texts -/

/-- Words are their own words. -/
theorem flatMap_words_of_words (h : ∀ word ∈ texts, ∃ text, word ∈ words text) :
    texts.flatMap words = texts := by
  induction texts with
  | nil => rfl
  | cons word texts ih =>
    obtain ⟨⟨text, hword⟩, htexts⟩ := List.forall_mem_cons.1 h
    rw [List.flatMap_cons, words_of_mem_words hword, ih htexts, List.singleton_append]

theorem length_le_length_flatMap_words (h : ∀ text ∈ texts, Trimmed text ∧ text ≠ []) :
    texts.length ≤ (texts.flatMap words).length := by
  induction texts with
  | nil => exact Nat.le_refl 0
  | cons text texts ih =>
    obtain ⟨⟨htrimmed, hne⟩, htexts⟩ := List.forall_mem_cons.1 h
    have hpos := List.length_pos_of_ne_nil (words_ne_nil htrimmed hne)
    have hrest := ih htexts
    rw [List.flatMap_cons, List.length_append, List.length_cons]
    omega

theorem flatMap_words_eq_nil_iff (h : ∀ text ∈ texts, Trimmed text ∧ text ≠ []) :
    texts.flatMap words = [] ↔ texts = [] := by
  constructor
  · intro hnil
    have hle := length_le_length_flatMap_words h
    rw [hnil] at hle
    exact List.eq_nil_of_length_eq_zero (Nat.eq_zero_of_le_zero hle)
  · rintro rfl
    rfl

/-- Texts of which none has more words than one are their own words. -/
theorem flatMap_words_of_length_le_one (h : ∀ text ∈ texts, Trimmed text ∧ text ≠ [])
    (hle : ∀ text ∈ texts, (words text).length ≤ 1) : texts.flatMap words = texts := by
  refine flatMap_words_of_words fun text htext => ⟨text, ?_⟩
  obtain ⟨htrimmed, hne⟩ := h text htext
  rw [words_of_length_le_one htrimmed hne (hle text htext)]
  exact List.mem_singleton_self text

/-- Texts that have no more words than they are are single words. -/
theorem length_words_le_one (h : ∀ text ∈ texts, Trimmed text ∧ text ≠ [])
    (hle : (texts.flatMap words).length ≤ texts.length) :
    ∀ text ∈ texts, (words text).length ≤ 1 := by
  induction texts with
  | nil => exact nofun
  | cons text texts ih =>
    obtain ⟨⟨htrimmed, hne⟩, htexts⟩ := List.forall_mem_cons.1 h
    have hpos := List.length_pos_of_ne_nil (words_ne_nil htrimmed hne)
    have hrest := length_le_length_flatMap_words htexts
    rw [List.flatMap_cons, List.length_append, List.length_cons] at hle
    exact List.forall_mem_cons.2 ⟨by omega, ih htexts (by omega)⟩

/-! ## Texts with commas between them -/

/-- Texts that neither begin nor end with a blank keep their words when they are put together. -/
theorem length_words_intercalate (h : ∀ text ∈ texts, Trimmed text ∧ text ≠ []) :
    (words (", ".toList.intercalate texts)).length = (texts.flatMap words).length := by
  induction texts with
  | nil => rfl
  | cons text texts ih =>
    obtain ⟨⟨htrimmed, hne⟩, htexts⟩ := List.forall_mem_cons.1 h
    cases texts with
    | nil => simp
    | cons next texts =>
      have happend : text ++ ", ".toList ++ ", ".toList.intercalate (next :: texts) =
          (text ++ [',']) ++ ' ' :: ", ".toList.intercalate (next :: texts) := by simp
      have hcomma : ∀ c ∈ [','], isBlank c = false := List.forall_mem_singleton.2 (by decide)
      rw [List.intercalate_cons_cons, happend, words_append_blank (by decide), List.length_append,
        length_words_append htrimmed hne hcomma, ih htexts, List.flatMap_cons (x := text),
        List.length_append]

/-- Each of several texts but the last one is followed by a comma. -/
theorem count_comma_intercalate (hne : texts ≠ []) :
    (", ".toList.intercalate texts).count ',' + 1 = texts.flatten.count ',' + texts.length := by
  induction texts with
  | nil => exact absurd rfl hne
  | cons text texts ih =>
    cases texts with
    | nil => simp
    | cons next texts =>
      have hcomma : ", ".toList.count ',' = 1 := by decide
      have hrest := ih (List.cons_ne_nil next texts)
      rw [List.intercalate_cons_cons, List.count_append, List.count_append, hcomma,
        List.flatten_cons (l := text), List.count_append, List.length_cons]
      omega

end VpnTray.Text
