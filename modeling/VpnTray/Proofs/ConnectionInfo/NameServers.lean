import Mathlib.Data.List.Nodup
import Mathlib.Data.List.Perm.Subperm
import VpnTray.ConnectionInfo.Sources
import VpnTray.Proofs.Text.Words

/-!
# Name servers

The name service tells its servers in two kinds of lines, and a line may tell the addresses of
several. All the addresses, each at its first appearance, would be listed with commas between them.

What is listed are the lines. Two lines that tell the same are listed once, but where a line tells
two addresses, they are listed as they stand there, with no comma between them, and each of them
again if another line tells it. So the addresses are listed one by one if and only if no line tells
more than one (`listed_servers?`). To see this from the list, two numbers are enough: that of its
words, which is the number of the addresses in the lines, and that of its commas, which is one less
than the number of the lines.
-/

namespace VpnTray

open Text

/-! ## First appearances -/

theorem eraseDups_eq_nil_iff {α : Type} [BEq α] {xs : List α} : xs.eraseDups = [] ↔ xs = [] := by
  cases xs with
  | nil => exact iff_of_true rfl rfl
  | cons x xs =>
    rw [List.eraseDups_cons]
    exact iff_of_false nofun nofun

section Distinct

variable {α : Type} [BEq α] [LawfulBEq α] {x : α} {xs : List α}

theorem eraseDups_concat_of_mem (h : x ∈ xs) : (xs ++ [x]).eraseDups = xs.eraseDups := by
  rw [List.eraseDups_append]
  simp [List.removeAll, h]

theorem eraseDups_concat_of_notMem (h : x ∉ xs) : (xs ++ [x]).eraseDups = xs.eraseDups ++ [x] := by
  rw [List.eraseDups_append]
  simp [List.removeAll, h, List.eraseDups_cons]

theorem nodup_eraseDups (xs : List α) : xs.eraseDups.Nodup := by
  induction xs using List.reverseRecOn with
  | nil => exact List.nodup_nil
  | append_singleton xs x ih =>
    by_cases h : x ∈ xs
    · rwa [eraseDups_concat_of_mem h]
    · rw [eraseDups_concat_of_notMem h]
      refine List.nodup_append.2 ⟨ih, List.nodup_singleton x, fun y hy z hz heq => h ?_⟩
      rw [← List.mem_singleton.1 hz, ← heq]
      exact List.mem_eraseDups.1 hy

end Distinct

namespace ConnectionInfo

variable {output line text : Text} {texts : List Text}

/-- The texts that are distinct are the first appearances of those that are not empty. -/
theorem distinct_eq (texts : List Text) :
    distinct texts = (texts.filter (!·.isEmpty)).eraseDups := by
  induction texts using List.reverseRecOn with
  | nil => rfl
  | append_singleton texts text ih =>
    have hstep : distinct (texts ++ [text]) =
        if text.isEmpty || text ∈ distinct texts then distinct texts
        else distinct texts ++ [text] := List.foldl_append
    rw [hstep, ih, List.filter_append]
    by_cases hempty : text.isEmpty
    · simp [hempty]
    · by_cases hmem : text ∈ texts.filter (!·.isEmpty)
      · simp [hempty, hmem, eraseDups_concat_of_mem hmem]
      · simp [hempty, hmem, eraseDups_concat_of_notMem hmem]

/-! ## The addresses -/

/-- The addresses that a line tells: the words behind one of the two beginnings of such a line. -/
def addressesIn (line : Text) : List Text :=
  match after? "DNS Servers:" (trim line), after? "Current DNS Server:" (trim line) with
  | some rest, _ => words rest
  | none, some rest => words rest
  | none, none => []

/-- The addresses that the lines of a text tell, in their order. -/
def addresses (output : Text) : List Text := (lines output).flatMap addressesIn

/-- The lines that tell of name servers, without what they begin with, and without those that tell
    none. -/
def serverLines (output : Text) : List Text :=
  ((lines output).filterMap fun line => serversOfLine? (trim line)).filter (!·.isEmpty)

theorem servers?_eq (output : Text) :
    servers? output = commaSeparated? (serverLines output).eraseDups := by
  rw [servers?, distinct_eq]
  rfl

theorem addressesIn_eq (line : Text) :
    addressesIn line = (serversOfLine? (trim line)).elim [] words := by
  rw [addressesIn, serversOfLine?]
  cases after? "DNS Servers:" (trim line) with
  | some rest => exact (words_trim rest).symm
  | none =>
    cases after? "Current DNS Server:" (trim line) with
    | some rest => exact (words_trim rest).symm
    | none => rfl

theorem addresses_eq (output : Text) : addresses output = (serverLines output).flatMap words := by
  rw [addresses, serverLines]
  induction lines output with
  | nil => rfl
  | cons line rest ih =>
    rw [List.flatMap_cons, List.filterMap_cons, addressesIn_eq, ih]
    cases serversOfLine? (trim line) with
    | none => rfl
    | some text =>
      by_cases hempty : text.isEmpty
      · simp [List.isEmpty_iff.1 hempty]
      · simp [hempty]

theorem mem_serverLines : text ∈ serverLines output ↔
    (∃ line ∈ lines output, serversOfLine? (trim line) = some text) ∧ text ≠ [] := by
  rw [serverLines, List.mem_filter, List.mem_filterMap]
  simp

theorem trimmed_of_mem_serverLines (h : text ∈ serverLines output) : Trimmed text ∧ text ≠ [] := by
  obtain ⟨⟨line, -, hline⟩, hne⟩ := mem_serverLines.1 h
  obtain ⟨rest, -, rfl⟩ := Option.map_eq_some_iff.1 hline
  exact ⟨trimmed_trim rest, hne⟩

theorem forall_length_addressesIn_iff : (∀ line ∈ lines output, (addressesIn line).length ≤ 1) ↔
    ∀ text ∈ serverLines output, (words text).length ≤ 1 := by
  constructor
  · intro h text htext
    obtain ⟨⟨line, hmem, hline⟩, -⟩ := mem_serverLines.1 htext
    have hlength := h line hmem
    rwa [addressesIn_eq, hline] at hlength
  · intro h line hmem
    rw [addressesIn_eq]
    cases hline : serversOfLine? (trim line) with
    | none => exact Nat.zero_le 1
    | some text =>
      by_cases hne : text = []
      · rw [hne]
        exact Nat.zero_le 1
      · exact h text (mem_serverLines.2 ⟨⟨line, hmem, hline⟩, hne⟩)

/-! ## What is listed -/

theorem commaSeparated?_eq_none_iff : commaSeparated? texts = none ↔ texts = [] := by
  rw [commaSeparated?]
  split
  · next h => exact iff_of_true rfl (List.isEmpty_iff.1 h)
  · next h => exact iff_of_false nofun (by simpa using h)

theorem intercalate_eq_of_commaSeparated?_eq {others : List Text}
    (h : commaSeparated? texts = commaSeparated? others) :
    ", ".toList.intercalate texts = ", ".toList.intercalate others := by
  by_cases hnil : texts = []
  · rw [commaSeparated?_eq_none_iff.2 hnil] at h
    rw [hnil, commaSeparated?_eq_none_iff.1 h.symm]
  · have hothers : others ≠ [] := fun heq => hnil <|
      commaSeparated?_eq_none_iff.1 (h.trans (commaSeparated?_eq_none_iff.2 heq))
    rw [commaSeparated?, commaSeparated?, if_neg (by simpa using hnil),
      if_neg (by simpa using hothers)] at h
    exact Option.some.inj h

/-- Lists of texts and of their words that are the same text hold the same words. -/
theorem perm_words_of_intercalate_eq (h : ∀ text ∈ texts, Trimmed text ∧ text ≠ [])
    (heq : ", ".toList.intercalate texts.eraseDups =
      ", ".toList.intercalate (texts.flatMap words).eraseDups) :
    (texts.flatMap words).eraseDups.Perm (texts.eraseDups.flatMap words) := by
  have hwords : ∀ word ∈ (texts.flatMap words).eraseDups, ∃ text ∈ texts, word ∈ words text :=
    fun word hword => List.mem_flatMap.1 (List.mem_eraseDups.1 hword)
  have hsubset : (texts.flatMap words).eraseDups ⊆ texts.eraseDups.flatMap words := by
    intro word hword
    obtain ⟨text, htext, hmem⟩ := hwords word hword
    exact List.mem_flatMap.2 ⟨text, List.mem_eraseDups.2 htext, hmem⟩
  have hlength : (texts.eraseDups.flatMap words).length =
      (texts.flatMap words).eraseDups.length := by
    have hleft := length_words_intercalate fun text htext => h text (List.mem_eraseDups.1 htext)
    rw [heq, length_words_intercalate, flatMap_words_of_words] at hleft
    · exact hleft.symm
    · exact fun word hword => (hwords word hword).imp fun _ => And.right
    · intro word hword
      obtain ⟨text, -, hmem⟩ := hwords word hword
      obtain ⟨hne, hnoBlank⟩ := noBlank_of_mem_words hmem
      exact ⟨trimmed_of_noBlank hnoBlank, hne⟩
  have hsubperm := List.subperm_of_subset (nodup_eraseDups _) hsubset
  exact hsubperm.perm_of_length_le (Nat.le_of_eq hlength)

/-- Texts whose words are listed one by one, when they are listed themselves, are single words. -/
theorem length_words_le_one_of_intercalate_eq (h : ∀ text ∈ texts, Trimmed text ∧ text ≠ [])
    (heq : ", ".toList.intercalate texts.eraseDups =
      ", ".toList.intercalate (texts.flatMap words).eraseDups) :
    ∀ text ∈ texts, (words text).length ≤ 1 := by
  by_cases hnil : texts = []
  · rw [hnil]
    exact nofun
  have hdistinct : ∀ text ∈ texts.eraseDups, Trimmed text ∧ text ≠ [] := fun text htext =>
    h text (List.mem_eraseDups.1 htext)
  have hperm := perm_words_of_intercalate_eq h heq
  have hsame : texts.eraseDups.flatten.count ',' =
      (texts.flatMap words).eraseDups.flatten.count ',' := by
    rw [hperm.flatten.count_eq, count_flatten_flatMap_words (by decide)]
  have hne : (texts.flatMap words).eraseDups ≠ [] :=
    mt (eraseDups_eq_nil_iff.trans (flatMap_words_eq_nil_iff h)).1 hnil
  -- As many commas stand between the texts as between the words.
  have hcommas := count_comma_intercalate (mt eraseDups_eq_nil_iff.1 hnil)
  have hcommas' := count_comma_intercalate hne
  rw [← heq] at hcommas'
  have hle : (texts.eraseDups.flatMap words).length ≤ texts.eraseDups.length := by
    rw [← hperm.length_eq]
    omega
  exact fun text htext => length_words_le_one hdistinct hle text (List.mem_eraseDups.2 htext)

/-- How the name servers of a text are listed. -/
structure Listed (output : Text) : Prop where
  /-- What the lines tell is listed, each of it once, where it appears first. -/
  told : servers? output = commaSeparated? (serverLines output).eraseDups
  /-- There is a list unless there is no address. -/
  none : servers? output = none ↔ addresses output = []
  /-- The list is that of the addresses, each of them once, if and only if no line tells more than
      one of them. -/
  single : servers? output = commaSeparated? (addresses output).eraseDups ↔
    ∀ line ∈ lines output, (addressesIn line).length ≤ 1

theorem listed_servers? (output : Text) : Listed output := by
  have htexts : ∀ text ∈ serverLines output, Trimmed text ∧ text ≠ [] := fun _ =>
    trimmed_of_mem_serverLines
  refine ⟨servers?_eq output, ?none, ?single⟩
  case none =>
    rw [servers?_eq, addresses_eq, commaSeparated?_eq_none_iff, eraseDups_eq_nil_iff,
      flatMap_words_eq_nil_iff htexts]
  case single =>
    rw [servers?_eq, addresses_eq, forall_length_addressesIn_iff]
    constructor
    · intro h
      exact length_words_le_one_of_intercalate_eq htexts (intercalate_eq_of_commaSeparated?_eq h)
    · intro h
      rw [flatMap_words_of_length_le_one htexts h]

/-- One server is the current one, and there are two of them. -/
def severalServers : Text :=
  "Link 4 (sdwan0)\n  Current DNS Server: 100.95.0.251\n  DNS Servers: 100.95.0.251 100.95.0.252\n"

/-- The server that is told twice is listed twice, and no comma stands behind it the second time. -/
theorem servers?_severalServers :
    servers? severalServers = some "100.95.0.251, 100.95.0.251 100.95.0.252".toList ∧
      commaSeparated? (addresses severalServers).eraseDups =
        some "100.95.0.251, 100.95.0.252".toList := by
  decide +kernel

end ConnectionInfo

end VpnTray
