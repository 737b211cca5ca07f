import VpnTray.Proofs.Text.Blank

/-!
# Pieces of trimmed texts

A text is trimmed before it is split into lines, and a line before it is split into cells. What
separates the pieces is blank itself. So trimming takes whole pieces away, namely those at either
end in which there is nothing but blanks, and the others are the same as before, since each piece
is trimmed in its turn.

* `Pads`: a list of pieces, with empty ones at either end;
* `Trails`: a list of pieces, with blanks at their ends and blank pieces after the last one, which
  is what blanks at the end of a text, and line ends, can add;
* `pads_splitOnP`, `pads_lines_trim`: the pieces of a text pad those of the trimmed text;
* `inner`, `cells_trim`: the cells of a trimmed line are those of the line itself from the first to
  the last one that is not empty.
-/

namespace VpnTray.Text

/-- The pieces are some others with empty ones at either end. -/
def Pads (pieces others : List (List Char)) : Prop :=
  ∃ front back, (∀ piece ∈ front, piece = []) ∧ (∀ piece ∈ back, piece = []) ∧
    pieces = front ++ others ++ back

/-- The pieces from the first to the last one that is not empty. -/
def inner (pieces : List (List Char)) : List (List Char) :=
  (pieces.dropWhile (·.isEmpty)).rdropWhile (·.isEmpty)

/-- The pieces are some others with blanks behind each of them, and blank ones behind all. -/
def Trails (pieces others : List (List Char)) : Prop :=
  ∃ back, (∀ piece ∈ back, Blank piece) ∧ pieces.map trimEnd = (others ++ back).map trimEnd

variable {p : Char → Bool} {cs ds blanks piece line : List Char}
  {pieces others more : List (List Char)}

/-! ## Empty pieces at either end -/

namespace Pads

theorem trans (h : Pads pieces others) (hothers : Pads others more) : Pads pieces more := by
  obtain ⟨front, back, hfront, hback, rfl⟩ := h
  obtain ⟨front', back', hfront', hback', rfl⟩ := hothers
  refine ⟨front ++ front', back' ++ back, List.forall_mem_append.2 ⟨hfront, hfront'⟩,
    List.forall_mem_append.2 ⟨hback', hback⟩, ?_⟩
  simp only [List.append_assoc]

/-- What is made of pieces is the same with the empty ones, if nothing is made of those. -/
theorem filterMap {β : Type} {f : List Char → Option β} (h : Pads pieces others)
    (hf : f [] = none) : pieces.filterMap f = others.filterMap f := by
  obtain ⟨front, back, hfront, hback, rfl⟩ := h
  have hnone : ∀ {ends : List (List Char)}, (∀ piece ∈ ends, piece = []) →
      ends.filterMap f = [] := fun hends =>
    List.filterMap_eq_nil_iff.2 fun piece hpiece => hends piece hpiece ▸ hf
  rw [List.filterMap_append, List.filterMap_append, hnone hfront, hnone hback, List.nil_append,
    List.append_nil]

theorem filter {q : List Char → Bool} (h : Pads pieces others) (hq : q [] = false) :
    pieces.filter q = others.filter q := by
  have hguard : Option.guard (fun piece => q piece) [] = none := by simp [hq]
  rw [← List.filterMap_eq_filter]
  exact h.filterMap hguard

/-- Without the empty ones at either end, only the others are left. -/
theorem inner_eq (h : Pads pieces others) (hhead : ∀ piece ∈ others.head?, piece ≠ [])
    (hlast : ∀ piece ∈ others.getLast?, piece ≠ []) : inner pieces = others := by
  obtain ⟨front, back, hfront, hback, rfl⟩ := h
  refine rdropWhile_dropWhile_append ?_ ?_ ?_ ?_
  · exact fun piece hpiece => List.isEmpty_iff.2 (hfront piece hpiece)
  · exact fun piece hpiece => List.isEmpty_eq_false_iff.2 (hhead piece hpiece)
  · exact fun piece hpiece => List.isEmpty_eq_false_iff.2 (hlast piece hpiece)
  · exact fun piece hpiece => List.isEmpty_iff.2 (hback piece hpiece)

end Pads

theorem pads_inner (pieces : List (List Char)) : Pads pieces (inner pieces) := by
  obtain ⟨front, back, hfront, hback, heq⟩ :=
    exists_eq_append_rdropWhile_dropWhile (·.isEmpty) pieces
  exact ⟨front, back, fun piece hpiece => List.isEmpty_iff.1 (hfront piece hpiece),
    fun piece hpiece => List.isEmpty_iff.1 (hback piece hpiece), heq⟩

theorem ne_nil_of_mem_head?_inner (h : piece ∈ (inner pieces).head?) : piece ≠ [] :=
  List.isEmpty_eq_false_iff.1 (of_mem_head?_rdropWhile_dropWhile h)

theorem ne_nil_of_mem_getLast?_inner (h : piece ∈ (inner pieces).getLast?) : piece ≠ [] :=
  List.isEmpty_eq_false_iff.1 (of_mem_getLast?_rdropWhile h)

/-- From the first to the last piece that is not empty there are two or more pieces only if two or
    more are not empty. -/
theorem length_inner_le_one_iff :
    (inner pieces).length ≤ 1 ↔ (pieces.filter (!·.isEmpty)).length ≤ 1 := by
  rw [(pads_inner pieces).filter rfl]
  have hhead := fun piece (h : piece ∈ (inner pieces).head?) => ne_nil_of_mem_head?_inner h
  have hlast := fun piece (h : piece ∈ (inner pieces).getLast?) => ne_nil_of_mem_getLast?_inner h
  constructor
  · exact fun h => (List.length_filter_le _ _).trans h
  · intro h
    match hinner : inner pieces with
    | [] => exact Nat.zero_le 1
    | [_] => exact Nat.le_refl 1
    | first :: second :: rest =>
      rw [hinner] at h hhead hlast
      have hne : second :: rest ≠ [] := nofun
      -- The last piece is another one that is not empty.
      have hother : (second :: rest).getLast hne ≠ [] :=
        hlast _ (by rw [List.getLast?_cons_cons]; exact List.getLast?_eq_some_getLast hne)
      have hmem : (second :: rest).getLast hne ∈ (second :: rest).filter (!·.isEmpty) :=
        List.mem_filter.2 ⟨List.getLast_mem hne, by simpa using hother⟩
      have hpos := List.length_pos_of_mem hmem
      rw [List.filter_cons_of_pos (by simpa using hhead first rfl), List.length_cons] at h
      omega

theorem inner_eq_nil (h : ∀ piece ∈ pieces, piece = []) : inner pieces = [] :=
  Pads.inner_eq ⟨pieces, [], h, nofun, by simp⟩ nofun nofun

/-! ## Blanks behind the pieces -/

namespace Trails

theorem refl (pieces : List (List Char)) : Trails pieces pieces :=
  ⟨[], nofun, by rw [List.append_nil]⟩

theorem trans (h : Trails pieces others) (hothers : Trails others more) : Trails pieces more := by
  obtain ⟨back, hback, heq⟩ := h
  obtain ⟨back', hback', heq'⟩ := hothers
  refine ⟨back' ++ back, List.forall_mem_append.2 ⟨hback', hback⟩, ?_⟩
  rw [heq, List.map_append, heq', ← List.map_append, List.append_assoc]

/-- A piece in front of the others may have blanks behind it, too. -/
theorem cons {other : List Char} (h : Trails pieces others)
    (hpiece : trimEnd piece = trimEnd other) : Trails (piece :: pieces) (other :: others) := by
  obtain ⟨back, hback, heq⟩ := h
  exact ⟨back, hback, by rw [List.map_cons, heq, hpiece, List.cons_append, List.map_cons]⟩

/-- Once the pieces are trimmed, there are only empty ones at the end. -/
theorem exists_map_trim (h : Trails pieces others) :
    ∃ back, (∀ piece ∈ back, piece = []) ∧ pieces.map trim = others.map trim ++ back := by
  obtain ⟨back, hback, heq⟩ := h
  have htrim : ∀ list : List (List Char), (list.map trimEnd).map trim = list.map trim := by
    intro list
    rw [List.map_map]
    exact List.map_congr_left fun piece _ => trim_trimEnd piece
  refine ⟨back.map trim, ?_, ?_⟩
  · exact List.forall_mem_map.2 fun piece hpiece => trim_eq_nil_iff.2 (hback piece hpiece)
  · rw [← htrim, heq, htrim, List.map_append]

theorem pads (h : Trails pieces others) : Pads (pieces.map trim) (others.map trim) := by
  obtain ⟨back, hback, heq⟩ := h.exists_map_trim
  exact ⟨[], back, nofun, hback, heq⟩

end Trails

/-! ## Pieces -/

/-- No piece holds what the text was split at, nor anything that was not in the text. -/
theorem of_mem_splitOnP (h : piece ∈ cs.splitOnP p) : ∀ c ∈ piece, c ∈ cs ∧ p c = false := by
  induction cs generalizing piece with
  | nil =>
    obtain rfl := List.mem_singleton.1 h
    exact nofun
  | cons c cs ih =>
    have hlater : ∀ {later}, later ∈ cs.splitOnP p → ∀ d ∈ later, d ∈ c :: cs ∧ p d = false :=
      fun hlater d hd => (ih hlater d hd).imp_left (List.mem_cons_of_mem c)
    rw [List.splitOnP_cons_eq_if_modifyHead] at h
    split at h
    · rcases List.mem_cons.1 h with rfl | hmem
      · exact nofun
      · exact hlater hmem
    · next hc =>
      obtain ⟨first, rest, hcs⟩ := List.exists_cons_of_ne_nil (List.splitOnP_ne_nil p cs)
      rw [hcs, List.modifyHead_cons] at h
      rcases List.mem_cons.1 h with rfl | hmem
      · refine List.forall_mem_cons.2 ⟨⟨List.mem_cons_self, Bool.eq_false_iff.2 hc⟩, ?_⟩
        exact hlater (hcs ▸ List.mem_cons_self)
      · exact hlater (hcs ▸ List.mem_cons_of_mem _ hmem)

/-- The first piece is what comes before all that the text is split at. -/
theorem head?_splitOnP (p : Char → Bool) (cs : List Char) :
    (cs.splitOnP p).head? = some (cs.takeWhile (!p ·)) := by
  induction cs with
  | nil => rfl
  | cons c cs ih =>
    rw [List.splitOnP_cons_eq_if_modifyHead, List.takeWhile_cons]
    split
    · next hc => simp [hc]
    · next hc => simp [hc, List.head?_modifyHead, ih]

/-- Where two texts meet, the last piece of one and the first piece of the other become one. -/
theorem splitOnP_append {first : List Char} {rest : List (List Char)}
    (hds : ds.splitOnP p = first :: rest) (cs : List Char) :
    ∃ init last, cs.splitOnP p = init ++ [last] ∧
      (cs ++ ds).splitOnP p = init ++ (last ++ first) :: rest := by
  induction cs with
  | nil => exact ⟨[], [], rfl, hds⟩
  | cons c cs ih =>
    obtain ⟨init, last, hcs, happend⟩ := ih
    rw [List.cons_append, List.splitOnP_cons_eq_if_modifyHead,
      List.splitOnP_cons_eq_if_modifyHead, hcs, happend]
    split
    · exact ⟨[] :: init, last, rfl, rfl⟩
    · cases init with
      | nil => exact ⟨[], c :: last, rfl, rfl⟩
      | cons piece init => exact ⟨(c :: piece) :: init, last, rfl, rfl⟩

theorem blank_of_mem_splitOnP (h : Blank cs) (hpiece : piece ∈ cs.splitOnP p) : Blank piece :=
  fun c hc => h c (of_mem_splitOnP hpiece c hc).1

/-- Blanks in front of a text only add pieces in which there is nothing else. -/
theorem pads_splitOnP_append_left (h : Blank blanks) :
    Pads (((blanks ++ cs).splitOnP p).map trim) ((cs.splitOnP p).map trim) := by
  obtain ⟨first, rest, hcs⟩ := List.exists_cons_of_ne_nil (List.splitOnP_ne_nil p cs)
  obtain ⟨init, last, hblanks, happend⟩ := splitOnP_append hcs blanks
  have hpiece : ∀ piece ∈ init ++ [last], Blank piece := fun piece hpiece =>
    blank_of_mem_splitOnP h (hblanks ▸ hpiece)
  have hlast : Blank last := hpiece last (by simp)
  refine ⟨init.map trim, [], ?_, nofun, ?_⟩
  · exact List.forall_mem_map.2 fun piece hmem =>
      trim_eq_nil_iff.2 (hpiece piece (List.mem_append_left _ hmem))
  · rw [happend, hcs, List.map_append, List.map_cons, List.map_cons, trim_append_left hlast,
      List.append_nil]

/-- Blanks behind a text only add blanks behind its pieces. -/
theorem trails_splitOnP_append (h : Blank blanks) :
    Trails ((cs ++ blanks).splitOnP p) (cs.splitOnP p) := by
  obtain ⟨first, rest, hblanks⟩ := List.exists_cons_of_ne_nil (List.splitOnP_ne_nil p blanks)
  obtain ⟨init, last, hcs, happend⟩ := splitOnP_append hblanks cs
  have hpiece : ∀ piece ∈ first :: rest, Blank piece := fun piece hpiece =>
    blank_of_mem_splitOnP h (hblanks ▸ hpiece)
  obtain ⟨hfirst, hrest⟩ := List.forall_mem_cons.1 hpiece
  refine ⟨rest, hrest, ?_⟩
  rw [happend, hcs]
  simp only [List.map_append, List.map_cons, trimEnd_append_right hfirst, List.append_assoc,
    List.cons_append, List.nil_append]

/-- When a text is trimmed before it is split, it loses only pieces that are blank. -/
theorem pads_splitOnP (p : Char → Bool) (cs : List Char) :
    Pads ((cs.splitOnP p).map trim) (((trim cs).splitOnP p).map trim) := by
  obtain ⟨front, back, hfront, hback, hcs⟩ := exists_blanks cs
  have hright : Pads (((front ++ trim cs ++ back).splitOnP p).map trim)
      (((front ++ trim cs).splitOnP p).map trim) := (trails_splitOnP_append hback).pads
  rw [← hcs] at hright
  exact hright.trans (pads_splitOnP_append_left hfront)

/-! ## What is found last -/

/-- The last thing that is found in a list is found in an element after which nothing is. -/
theorem getLast?_filterMap_eq_some_iff {α β : Type} {f : α → Option β} {xs : List α} {y : β} :
    (xs.filterMap f).getLast? = some y ↔
      ∃ before x after, xs = before ++ x :: after ∧ f x = some y ∧
        ∀ later ∈ after, f later = none := by
  rw [List.getLast?_filterMap, List.findSome?_eq_some_iff]
  constructor
  · rintro ⟨after, x, before, hxs, hx, hafter⟩
    refine ⟨before.reverse, x, after.reverse, ?_, hx, ?_⟩
    · rw [List.reverse_eq_append_iff.1 hxs, List.reverse_cons, List.append_assoc]
      rfl
    · exact fun later hlater => hafter later (List.mem_reverse.1 hlater)
  · rintro ⟨before, x, after, rfl, hx, hafter⟩
    exact ⟨after.reverse, x, before.reverse, by simp, hx, by simpa using hafter⟩

theorem getLast?_filter_eq_some_iff {α : Type} {q : α → Bool} {xs : List α} {x : α} :
    (xs.filter q).getLast? = some x ↔
      ∃ before after, xs = before ++ x :: after ∧ q x ∧ ∀ later ∈ after, q later = false := by
  rw [← List.filterMap_eq_filter, getLast?_filterMap_eq_some_iff]
  simp only [Option.guard_eq_some_iff, Option.guard_eq_none_iff]
  constructor
  · rintro ⟨before, x, after, hxs, ⟨rfl, hx⟩, hafter⟩
    exact ⟨before, after, hxs, hx, hafter⟩
  · rintro ⟨before, after, hxs, hx, hafter⟩
    exact ⟨before, x, after, hxs, ⟨rfl, hx⟩, hafter⟩

/-! ## Cells -/

/-- Where blanks are what separates the pieces, a trimmed text begins and ends with a piece that
    is not empty. -/
theorem inner_splitOnP (hp : ∀ c, p c → isBlank c) (h : ¬ Blank cs) :
    inner ((cs.splitOnP p).map trim) = ((trim cs).splitOnP p).map trim := by
  have hne : trim cs ≠ [] := mt trim_eq_nil_iff.1 h
  have hsplit : ∀ {c}, isBlank c = false → p c = false := fun hc =>
    Bool.eq_false_iff.2 fun hpc => Bool.false_ne_true (hc.symm.trans (hp _ hpc))
  refine (pads_splitOnP p cs).inner_eq ?head ?last
  case head =>
    obtain ⟨c, rest, htrim⟩ := List.exists_cons_of_ne_nil hne
    have hc : isBlank c = false := (trimmed_trim cs).head c (by simp [htrim])
    intro piece hpiece
    rw [List.head?_map, head?_splitOnP, htrim, List.takeWhile_cons_of_pos (by simp [hsplit hc])]
      at hpiece
    obtain rfl := Option.some.inj hpiece
    exact trim_cons_ne_nil hc _
  case last =>
    have htrim := List.dropLast_append_getLast hne
    have hc : isBlank ((trim cs).getLast hne) = false :=
      (trimmed_trim cs).last _ (List.getLast?_eq_some_getLast hne)
    generalize (trim cs).getLast hne = c at htrim hc
    have hone : [c].splitOnP p = [[c]] :=
      List.splitOnP_eq_singleton (List.forall_mem_singleton.2 (hsplit hc))
    obtain ⟨init, last, -, happend⟩ := splitOnP_append hone (trim cs).dropLast
    intro piece hpiece
    rw [← htrim, happend, List.getLast?_map, List.getLast?_concat] at hpiece
    obtain rfl := Option.some.inj hpiece
    intro hnil
    exact Bool.false_ne_true (hc.symm.trans (trim_eq_nil_iff.1 hnil c (by simp)))

/-- A line loses its outer cells when it is trimmed, if they are blank. -/
theorem cells_trim (h : ¬ Blank line) : cells (trim line) = inner (cells line) := by
  refine (inner_splitOnP (fun c hc => ?_) h).symm
  obtain rfl := beq_iff_eq.1 hc
  decide

/-! ## Lines -/

theorem dropReturn_prefix (line : List Char) : dropReturn line <+: line := by
  rw [dropReturn]
  cases hsuffix : List.isSuffixOf? ['\r'] line with
  | none => exact List.prefix_rfl
  | some start => exact ⟨['\r'], List.isSuffixOf?_eq_some_iff_append_eq.1 hsuffix⟩

/-- A line is the beginning of a piece, or all of it. -/
theorem exists_prefix_of_mem_linesOfPieces (h : line ∈ linesOfPieces pieces) :
    ∃ piece ∈ pieces, line <+: piece := by
  fun_induction linesOfPieces pieces with
  | case1 => exact absurd h List.not_mem_nil
  | case2 last hlast => exact absurd h List.not_mem_nil
  | case3 last hlast => exact ⟨line, h, List.prefix_rfl⟩
  | case4 piece pieces _ ih =>
    rcases List.mem_cons.1 h with rfl | hmem
    · exact ⟨piece, List.mem_cons_self, dropReturn_prefix piece⟩
    · obtain ⟨other, hother, hstart⟩ := ih hmem
      exact ⟨other, List.mem_cons_of_mem _ hother, hstart⟩

theorem noFeed_of_mem_lines {text : List Char} (h : line ∈ lines text) : '\n' ∉ line := by
  obtain ⟨piece, hpiece, hstart⟩ := exists_prefix_of_mem_linesOfPieces h
  exact fun hmem => absurd (of_mem_splitOnP hpiece _ (hstart.mem hmem)).2 (by decide)

theorem trimEnd_dropReturn (line : List Char) : trimEnd (dropReturn line) = trimEnd line := by
  rw [dropReturn]
  cases hsuffix : List.isSuffixOf? ['\r'] line with
  | none => rfl
  | some start =>
    rw [← List.isSuffixOf?_eq_some_iff_append_eq.1 hsuffix]
    exact (trimEnd_append_right (by decide)).symm

/-- Line ends are blanks behind the lines. After the last one there may be nothing. -/
theorem trails_linesOfPieces (pieces : List (List Char)) :
    Trails pieces (linesOfPieces pieces) := by
  fun_induction linesOfPieces pieces with
  | case1 => exact .refl []
  | case2 last hlast =>
    obtain rfl := List.isEmpty_iff.1 hlast
    exact ⟨[[]], List.forall_mem_singleton.2 nofun, rfl⟩
  | case3 last hlast => exact .refl [last]
  | case4 piece pieces _ ih => exact ih.cons (trimEnd_dropReturn piece).symm

/-- When the blanks at the end of a text go before it is taken apart, only blanks at the ends of
    lines and blank lines at the end go with them. -/
theorem trails_lines_trimEnd (text : List Char) :
    Trails (text.splitOnP (· == '\n')) (lines (trimEnd text)) := by
  obtain ⟨back, hback, htext⟩ := exists_blanks_right text
  have hsplit : Trails ((trimEnd text ++ back).splitOnP (· == '\n'))
      ((trimEnd text).splitOnP (· == '\n')) := trails_splitOnP_append hback
  rw [← htext] at hsplit
  exact hsplit.trans (trails_linesOfPieces _)

theorem pads_lines (text : List Char) :
    Pads ((text.splitOnP (· == '\n')).map trim) ((lines text).map trim) :=
  (trails_linesOfPieces _).pads

/-- When a text is trimmed before it is taken apart, it loses only lines that are blank. -/
theorem pads_lines_trim (text : List Char) :
    Pads ((text.splitOnP (· == '\n')).map trim) ((lines (trim text)).map trim) :=
  (pads_splitOnP _ text).trans (pads_lines (trim text))

/-- The lines that are not blank are the same in a trimmed text. -/
theorem filter_map_trim_lines_trim {q : List Char → Bool} (hq : q [] = false) (text : List Char) :
    ((lines (trim text)).map trim).filter q = ((lines text).map trim).filter q := by
  rw [← (pads_lines_trim text).filter hq, (pads_lines text).filter hq]

end VpnTray.Text
