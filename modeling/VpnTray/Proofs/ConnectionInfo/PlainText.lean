import Mathlib.Data.List.SplitBy
import VpnTray.ConnectionInfo.Basic

/-!
# The text tells the details

A detail may be any text, of several lines too, and of lines that look like the row of another
detail. The text of the details tells all of them nevertheless: it can be read back
(`ofPlainText?`), and different details never have the same text (`lossless_plainText`).

The first line of a row begins with its label, and no label begins with a space. The further lines
of the row are indented, so that each of them begins with spaces, even if nothing else is in it. So
the text is taken apart into rows at the lines that do not begin with a space, and a detail is what
is left of its row without the columns in front of the details.
-/

namespace VpnTray

open Text

/-! ## Splitting at a separator -/

section SplitOn

variable {α : Type} [BEq α] [LawfulBEq α] {x : α} {front : List α}

/-- What holds no separator only makes the first piece longer. -/
theorem splitOn_append_of_notMem (h : x ∉ front) (xs : List α) :
    (front ++ xs).splitOn x = (xs.splitOn x).modifyHead (front ++ ·) := by
  induction front with
  | nil => exact (congrFun List.modifyHead_id _).symm
  | cons y front ih =>
    rw [List.mem_cons, not_or] at h
    rw [List.cons_append, List.splitOn_cons_eq_if_modifyHead, if_neg (by simpa using Ne.symm h.1),
      ih h.2, List.modifyHead_modifyHead]
    rfl

/-- The pieces of several lists with separators between them are those of each of them. -/
theorem splitOn_intercalate_of_ne_nil {lists : List (List α)} (h : lists ≠ []) :
    ([x].intercalate lists).splitOn x = lists.flatMap (·.splitOn x) := by
  induction lists with
  | nil => exact absurd rfl h
  | cons list lists ih =>
    cases lists with
    | nil => rw [List.intercalate_singleton, List.flatMap_singleton]
    | cons next lists =>
      rw [List.intercalate_cons_cons, List.append_assoc, List.singleton_append,
        List.splitOn_append_cons_self, ih (List.cons_ne_nil next lists)]
      rfl

end SplitOn

section SplitBy

variable {α : Type} {continues : α → Bool} {groups : List (List α)}

/-- An element that begins a group, and elements that continue it. -/
def IsGroup (continues : α → Bool) : List α → Prop
  | [] => False
  | first :: rest => continues first = false ∧ ∀ x ∈ rest, continues x

theorem splitBy_of_isGroup {group : List α} (h : IsGroup continues group) :
    group.splitBy (fun _ x => continues x) = [group] := by
  cases group with
  | nil => cases h
  | cons first rest =>
    have hpairwise : (first :: rest).Pairwise fun _ x => continues x :=
      List.pairwise_cons.2 ⟨h.2, List.pairwise_of_forall_mem_list fun _ _ => h.2⟩
    exact List.splitBy_of_isChain (List.cons_ne_nil first rest) hpairwise.isChain

/-- Groups that follow each other are told apart by how they begin. -/
theorem splitBy_flatten_of_isGroup (h : ∀ group ∈ groups, IsGroup continues group) :
    groups.flatten.splitBy (fun _ x => continues x) = groups := by
  induction groups with
  | nil => rfl
  | cons group groups ih =>
    obtain ⟨hgroup, hgroups⟩ := List.forall_mem_cons.1 h
    have hnext : ∀ x ∈ groups.flatten.head?, continues x = false := by
      cases groups with
      | nil => exact nofun
      | cons next groups =>
        have hnext := hgroups next List.mem_cons_self
        cases next with
        | nil => cases hnext
        | cons first rest =>
          rintro x ⟨⟩
          exact hnext.1
    rw [List.flatten_cons, List.splitBy_append fun _ _ => hnext, splitBy_of_isGroup hgroup,
      ih hgroups]
    rfl

end SplitBy

namespace ConnectionInfo

/-! ## Hanging lines -/

/-- Pieces of a text, of which the first one stands behind a label and the others are indented. -/
def hang (first indent : Text) : List Text → List Text
  | [] => []
  | piece :: pieces => (first ++ piece) :: pieces.map (indent ++ ·)

variable {label value indent front first : Text} {pieces : List Text}

theorem modifyHead_hang (front first indent : Text) (pieces : List Text) :
    (hang first indent pieces).modifyHead (front ++ ·) = hang (front ++ first) indent pieces := by
  cases pieces with
  | nil => rfl
  | cons piece pieces => simp [hang]

theorem hang_modifyHead (indent : Text) (c : Char) (pieces : List Text) :
    hang [] indent (pieces.modifyHead (List.cons c)) =
      (hang [] indent pieces).modifyHead (List.cons c) := by
  cases pieces <;> rfl

theorem hang_self (indent : Text) (pieces : List Text) :
    hang indent indent pieces = pieces.map (indent ++ ·) := by
  cases pieces <;> rfl

/-- The lines of a text of which all but the first are indented. -/
theorem splitOn_replace (h : '\n' ∉ indent) (cs : Text) :
    (replace '\n' ('\n' :: indent) cs).splitOn '\n' = hang [] indent (cs.splitOn '\n') := by
  induction cs with
  | nil => rfl
  | cons c cs ih =>
    rw [List.splitOn_cons_eq_if_modifyHead, replace_cons]
    by_cases hc : c = '\n'
    · rw [if_pos hc, if_pos (by simpa using hc), List.cons_append,
        List.splitOn_cons_eq_if_modifyHead, if_pos (beq_self_eq_true _),
        splitOn_append_of_notMem h, ih, modifyHead_hang, List.append_nil, hang_self]
      rfl
    · rw [if_neg hc, if_neg (by simpa using hc), List.singleton_append,
        List.splitOn_cons_eq_if_modifyHead, if_neg (by simpa using hc), ih, hang_modifyHead]

/-! ## Rows -/

/-- What stands in front of a detail: its label, and spaces up to the column of the details. -/
def margin (label : Text) : Text :=
  label ++ ":" ++ List.replicate (labelWidth - (label ++ ":").length) ' '

/-- What stands in front of the further lines of a detail. -/
def indentation : Text := List.replicate labelWidth ' '

theorem row_eq (label value : Text) :
    row label value = margin label ++ replace '\n' ('\n' :: indentation) value := rfl

/-- A label that can stand in front of a detail. -/
structure IsLabel (label : Text) : Prop where
  fits : label.length < labelWidth
  noFeed : '\n' ∉ label
  noSpace : label.head? ≠ some ' '

instance (label : Text) : Decidable (IsLabel label) :=
  decidable_of_iff (label.length < labelWidth ∧ '\n' ∉ label ∧ label.head? ≠ some ' ')
    ⟨fun h => ⟨h.1, h.2.1, h.2.2⟩, fun h => ⟨h.fits, h.noFeed, h.noSpace⟩⟩

/-- The details with their labels, and the empty rows between the groups. -/
def entries (info : ConnectionInfo) : List (Option (Text × Text)) := [
  some ("Status", info.status),
  some ("Connected since", info.connectedSince),
  none,
  some ("User", info.user),
  some ("Network", info.network),
  some ("Network URL", info.networkUrl),
  none,
  some ("Interface", info.interface),
  some ("IP address", info.ipAddress),
  some ("DNS servers", info.dnsServers),
  some ("DNS domain", info.dnsDomain),
  some ("Secure DNS", info.secureDns),
  none,
  some ("Routes", info.routes),
  none,
  some ("Resources", info.resources),
  some ("Client version", info.clientVersion)]

/-- The lines of a row. -/
def rowLines : Option (Text × Text) → List Text
  | none => [[]]
  | some (label, value) => hang (margin label) indentation (value.splitOn '\n')

/-- What the lines of a row are: one empty line between two groups, or the lines of a detail, all of
    which stand in the same column, the first one behind the label and the others behind spaces. -/
inductive Stands : Option (Text × Text) → List Text → Prop
  | between : Stands none [[]]
  | detail {label front first value : Text} {rest : List Text}
    (hvalue : value.splitOn '\n' = first :: rest)
    (hfront : ∃ n, front = label ++ ":".toList ++ List.replicate n ' ')
    (hlength : front.length = labelWidth) :
    Stands (some (label, value)) ((front ++ first) :: rest.map (indentation ++ ·))

/-- The lines of the text are those of its rows, one row after the other. None of them is empty but
    the four between the groups. -/
structure LaidOut (info : ConnectionInfo) (textLines : List Text) : Prop where
  rows : ∃ groups, textLines = groups.flatten ∧ List.Forall₂ Stands info.entries groups
  empty : textLines.count [] = 4

/-- The detail in the lines of a row. -/
def ofRowLines (rowLines : List Text) : Text :=
  ['\n'].intercalate (rowLines.map (List.drop labelWidth))

/-- Reads the details from their text. -/
def ofPlainText? (text : Text) : Option ConnectionInfo :=
  match ((text.splitOn '\n').splitBy fun _ line => line.head? = some ' ').map ofRowLines with
  | [status, connectedSince, _, user, network, networkUrl, _, interface, ipAddress, dnsServers,
      dnsDomain, secureDns, _, routes, _, resources, clientVersion] =>
    some { status, connectedSince, network, networkUrl, user, secureDns, clientVersion, interface,
           ipAddress, dnsServers, dnsDomain, routes, resources }
  | _ => none

variable {info : ConnectionInfo} {entry : Option (Text × Text)} {textLines : List Text}

theorem isLabel_of_mem_entries (h : some (label, value) ∈ info.entries) : IsLabel label := by
  have hlabels : ∀ label ∈ (entries {}).filterMap (Option.map Prod.fst), IsLabel label := by decide
  -- The labels do not depend on the details.
  have hsame : info.entries.filterMap (Option.map Prod.fst) =
    (entries {}).filterMap (Option.map Prod.fst) := rfl
  exact hlabels label (hsame ▸ List.mem_filterMap.2 ⟨_, h, rfl⟩)

theorem length_margin (h : IsLabel label) : (margin label).length = labelWidth := by
  have hfits := h.fits
  rw [margin, List.length_append, List.length_replicate, List.length_append]
  have hcolon : ":".toList.length = 1 := by decide
  omega

theorem noFeed_margin (h : IsLabel label) : '\n' ∉ margin label := by
  simp [margin, h.noFeed, List.mem_replicate]

theorem noFeed_indentation : '\n' ∉ indentation := by decide

theorem splitOn_row (h : IsLabel label) (value : Text) :
    (row label value).splitOn '\n' = rowLines (some (label, value)) := by
  rw [row_eq, splitOn_append_of_notMem (noFeed_margin h), splitOn_replace noFeed_indentation,
    modifyHead_hang, List.append_nil, rowLines]

/-- The lines of the text are those of its rows. -/
theorem splitOn_plainText (info : ConnectionInfo) :
    info.plainText.splitOn '\n' = (info.entries.map rowLines).flatten := by
  have hrows : info.textRows = info.entries.map (·.elim [] fun entry => row entry.1 entry.2) := rfl
  have hne : info.textRows ≠ [] := List.cons_ne_nil _ _
  rw [plainText, splitOn_intercalate_of_ne_nil hne, hrows, List.flatMap_map, ← List.flatMap_def]
  refine List.flatMap_congr fun entry hentry => ?_
  match entry, hentry with
  | none, _ => rfl
  | some (label, value), hentry => exact splitOn_row (isLabel_of_mem_entries hentry) value

/-! ## The rows are laid out -/

theorem stands_rowLines (h : entry ∈ info.entries) : Stands entry (rowLines entry) := by
  match entry, h with
  | none, _ => exact .between
  | some (label, value), h =>
    obtain ⟨first, rest, hvalue⟩ := List.exists_cons_of_ne_nil (List.splitOn_ne_nil '\n' value)
    rw [rowLines, hvalue]
    exact .detail hvalue ⟨_, rfl⟩ (length_margin (isLabel_of_mem_entries h))

/-- There is something in each line of a detail, even if it is only spaces. -/
theorem Stands.nil_notMem (h : Stands (some (label, value)) textLines) : [] ∉ textLines := by
  have hne : ∀ front first : Text, front.length = labelWidth → front ++ first ≠ [] := by
    rintro front first hfront hnil
    rw [(List.append_eq_nil_iff.1 hnil).1] at hfront
    cases hfront
  cases h with
  | detail hvalue hfront hlength =>
    rw [List.mem_cons, not_or]
    refine ⟨(hne _ _ hlength).symm, fun hmem => ?_⟩
    obtain ⟨piece, -, hpiece⟩ := List.mem_map.1 hmem
    exact hne indentation piece List.length_replicate hpiece

theorem count_nil_of_stands {entries : List (Option (Text × Text))} {groups : List (List Text)}
    (h : List.Forall₂ Stands entries groups) : groups.flatten.count [] = entries.count none := by
  induction h with
  | nil => rfl
  | @cons entry group entries groups hentry _ ih =>
    rw [List.flatten_cons, List.count_append, ih]
    match entry, hentry with
    | none, .between =>
      rw [List.count_cons_self, List.count_cons_self, List.count_nil, Nat.zero_add, Nat.add_comm]
    | some (label, value), hentry =>
      have hne : some (label, value) ≠ none := Option.some_ne_none _
      rw [List.count_eq_zero.2 hentry.nil_notMem, List.count_cons_of_ne hne, Nat.zero_add]

theorem laidOut_plainText (info : ConnectionInfo) : LaidOut info (info.plainText.splitOn '\n') := by
  have hstands : List.Forall₂ Stands info.entries (info.entries.map rowLines) :=
    List.forall₂_map_right_iff.2 (List.forall₂_same.2 fun entry => stands_rowLines)
  refine ⟨⟨info.entries.map rowLines, splitOn_plainText info, hstands⟩, ?_⟩
  rw [splitOn_plainText, count_nil_of_stands hstands]
  rfl

/-! ## Reading the text -/

/-- The further lines of a row begin with a space, and the first one does not. -/
theorem Stands.isGroup (h : Stands entry textLines)
    (hlabel : ∀ label value, entry = some (label, value) → IsLabel label) :
    IsGroup (fun line => line.head? = some ' ') textLines := by
  cases h with
  | between => exact ⟨by decide, nofun⟩
  | @detail label front first value rest hvalue hfront hlength =>
    refine ⟨?_, List.forall_mem_map.2 fun piece _ => by rfl⟩
    obtain ⟨n, rfl⟩ := hfront
    have hspace := (hlabel label value rfl).noSpace
    cases label with
    | nil => rfl
    | cons c label => simpa using hspace

/-- A detail is what stands behind the first columns of its lines. -/
theorem Stands.ofRowLines_eq (h : Stands entry textLines) :
    ofRowLines textLines = entry.elim [] Prod.snd := by
  cases h with
  | between => rfl
  | @detail label front first value rest hvalue hfront hlength =>
    have hdrop : ∀ piece : Text, (indentation ++ piece).drop labelWidth = piece := fun piece =>
      List.drop_left' List.length_replicate
    have hrest : (rest.map (indentation ++ ·)).map (List.drop labelWidth) = rest := by
      rw [List.map_map]
      exact (List.map_congr_left fun piece _ => hdrop piece).trans (List.map_id rest)
    rw [ofRowLines, List.map_cons, List.drop_left' hlength, hrest, ← hvalue,
      List.intercalate_splitOn]
    rfl

theorem ofPlainText?_plainText (info : ConnectionInfo) :
    ofPlainText? info.plainText = some info := by
  have hgroups : (info.plainText.splitOn '\n').splitBy (fun _ line => line.head? = some ' ') =
      info.entries.map rowLines := by
    rw [splitOn_plainText]
    refine splitBy_flatten_of_isGroup (List.forall_mem_map.2 fun entry hentry => ?_)
    refine (stands_rowLines hentry).isGroup fun label value heq => ?_
    exact isLabel_of_mem_entries (heq ▸ hentry)
  have hread : (info.entries.map rowLines).map ofRowLines =
      info.entries.map (·.elim [] Prod.snd) := by
    rw [List.map_map]
    exact List.map_congr_left fun entry hentry => (stands_rowLines hentry).ofRowLines_eq
  rw [ofPlainText?, hgroups, hread]
  rfl

/-- The text of the details tells all of them, in rows that are laid out in columns. -/
theorem lossless_plainText :
    (∀ info, ofPlainText? (plainText info) = some info) ∧
      (∀ info, LaidOut info ((plainText info).splitOn '\n')) ∧ Function.Injective plainText := by
  refine ⟨ofPlainText?_plainText, laidOut_plainText, fun info info' h => ?_⟩
  have hread := congrArg ofPlainText? h
  rw [ofPlainText?_plainText, ofPlainText?_plainText] at hread
  exact Option.some.inj hread

/-- One detail looks like another one, one begins with an empty line, and one ends with two. -/
example :
    let info : ConnectionInfo :=
      { user := "alice\nNetwork:          acme", routes := "\n 10.0.0.0/8", resources := "a\n\n" }
    ofPlainText? info.plainText = some info := by decide +kernel

end ConnectionInfo

end VpnTray
