import Mathlib.Data.List.Basic
import VpnTray.ConnectionInfo.Sources
import VpnTray.Proofs.Calendar
import VpnTray.Proofs.Text.Number

/-!
# Since when

A start is told by its date and time and by how long ago it is. The text of a date and time can be
read back (`DateTime.read?_text`): the numbers in it have fixed widths, but for the years with a
sign. As the date and time are those that are reached by counting the days of the calendar, the text
tells the very second of the start, and no two starts have the same text.
-/

namespace VpnTray

open Text

/-! ## Numbers of fixed width -/

namespace Text

/-- The zeros in front of a number make no difference. -/
theorem writes_decimalPadded (width n : Nat) : Writes (decimalPadded width n) n :=
  writes_replicate_append _ n

theorem isDigit_of_mem_decimalPadded {width n : Nat} {c : Char} (h : c ∈ decimalPadded width n) :
    c.isDigit :=
  (writes_decimalPadded width n).digit c h

theorem readDigits?_decimalPadded (width n : Nat) :
    readDigits? (decimalPadded width n) = some n :=
  readDigits?_eq_some_iff.2 (writes_decimalPadded width n)

theorem length_decimalPadded {width n : Nat} (hwidth : 0 < width) (h : n < Nat.pow 10 width) :
    (decimalPadded width n).length = width := by
  have hle : (decimal n).length ≤ width := (Nat.length_toDigits_le_iff (by decide) hwidth).2 h
  rw [decimalPadded, List.length_append, List.length_replicate, Nat.sub_add_cancel hle]

end Text

/-! ## Reading dates -/

/-- A number of two digits. -/
def readTwo? (digits : Text) : Option Nat := if digits.length = 2 then readDigits? digits else none

/-- A number of four digits, or of more, with an optional plus sign in front. -/
def readYear? : Text → Option Nat
  | '+' :: digits => if 4 ≤ digits.length then readDigits? digits else none
  | digits => if 4 ≤ digits.length then readDigits? digits else none

/-- A date such as `2026-02-10`. The year may have a sign in front. -/
def Date.read? (text : Text) : Option Date :=
  match text.splitOn '-' with
  | [year, month, day] => do
    return { year := (← readYear? year), month := ← readTwo? month, day := ← readTwo? day }
  | [[], year, month, day] => do
    return { year := -(← readYear? year), month := ← readTwo? month, day := ← readTwo? day }
  | _ => none

/-- A date and time such as `2026-02-10 18:52:02`. -/
def DateTime.read? (text : Text) : Option DateTime := do
  let [date, time] := text.splitOn ' ' | none
  let [hour, minute, second] := time.splitOn ':' | none
  return { (← Date.read? date) with
    hour := ← readTwo? hour, minute := ← readTwo? minute, second := ← readTwo? second }

section Reading

variable {n : Nat}

theorem readTwo?_decimalPadded (h : n < 100) : readTwo? (decimalPadded 2 n) = some n := by
  rw [readTwo?, if_pos (length_decimalPadded (by decide) h), readDigits?_decimalPadded]

theorem four_le_length_decimalPadded (n : Nat) : 4 ≤ (decimalPadded 4 n).length := by
  rw [decimalPadded, List.length_append, List.length_replicate]
  omega

theorem notMem_decimalPadded {c : Char} (h : c.isDigit = false) (width n : Nat) :
    c ∉ decimalPadded width n := fun hc =>
  Bool.eq_false_iff.1 h (isDigit_of_mem_decimalPadded hc)

theorem readYear?_plus (n : Nat) : readYear? ('+' :: decimalPadded 4 n) = some n := by
  rw [readYear?, if_pos (four_le_length_decimalPadded n), readDigits?_decimalPadded]

theorem readYear?_decimalPadded (n : Nat) : readYear? (decimalPadded 4 n) = some n := by
  unfold readYear?
  split
  next digits h =>
    exact absurd (h ▸ List.mem_cons_self) (notMem_decimalPadded (c := '+') rfl 4 n)
  next => rw [if_pos (four_le_length_decimalPadded n), readDigits?_decimalPadded]

end Reading

/-! ## Texts of dates -/

/-- The parts of the text of a date: a year before 0 begins with the sign that parts them. -/
def Date.pieces (d : Date) : List Text :=
  let digits := decimalPadded 4 d.year.natAbs
  (if d.year < 0 then [[], digits] else if 9999 < d.year then ['+' :: digits] else [digits]) ++
    [decimalPadded 2 d.month, decimalPadded 2 d.day]

/-- The parts of the text of a time. -/
def DateTime.timePieces (t : DateTime) : List Text :=
  [decimalPadded 2 t.hour, decimalPadded 2 t.minute, decimalPadded 2 t.second]

theorem notMem_intercalate {α : Type} {x y : α} {lists : List (List α)} (hne : y ≠ x)
    (h : ∀ list ∈ lists, y ∉ list) : y ∉ [x].intercalate lists := by
  induction lists with
  | nil => exact List.not_mem_nil
  | cons list lists ih =>
    obtain ⟨hfirst, hrest⟩ := List.forall_mem_cons.1 h
    cases lists with
    | nil => rwa [List.intercalate_singleton]
    | cons next lists =>
      rw [List.intercalate_cons_cons, List.mem_append, List.mem_append, List.mem_singleton]
      exact not_or.2 ⟨not_or.2 ⟨hfirst, hne⟩, ih hrest⟩

namespace Date

variable {d : Date}

theorem notMem_pieces {c : Char} (hdigit : c.isDigit = false) (hplus : c ≠ '+') :
    ∀ piece ∈ d.pieces, c ∉ piece := by
  have hdigits := notMem_decimalPadded hdigit
  intro piece hpiece
  rcases List.mem_append.1 hpiece with hyear | hrest
  · split_ifs at hyear
    · rcases List.mem_pair.1 hyear with rfl | rfl
      · exact List.not_mem_nil
      · exact hdigits 4 _
    · obtain rfl := List.mem_singleton.1 hyear
      exact List.not_mem_cons_of_ne_of_not_mem hplus (hdigits 4 _)
    · obtain rfl := List.mem_singleton.1 hyear
      exact hdigits 4 _
  · rcases List.mem_pair.1 hrest with rfl | rfl
    · exact hdigits 2 _
    · exact hdigits 2 _

theorem read?_pieces (h : d.Exists) : read? (['-'].intercalate d.pieces) = some d := by
  have hmonth : readTwo? (decimalPadded 2 d.month) = some d.month :=
    readTwo?_decimalPadded (by have := h.month_le; omega)
  have hday : readTwo? (decimalPadded 2 d.day) = some d.day :=
    readTwo?_decimalPadded (by have := day_le_of_exists h; omega)
  have hbefore : d.year < 0 → -(d.year.natAbs : Int) = d.year := by omega
  have hafter : ¬ d.year < 0 → (d.year.natAbs : Int) = d.year := by omega
  have hsplit : (['-'].intercalate d.pieces).splitOn '-' = d.pieces :=
    List.splitOn_intercalate '-' (notMem_pieces rfl (by decide)) (by simp [pieces])
  rw [read?, hsplit, pieces]
  split_ifs with hneg hplus
  · simp only [List.cons_append, List.nil_append, readYear?_decimalPadded, hmonth, hday,
      Option.bind_eq_bind, Option.bind_some, Option.pure_def, hbefore hneg]
  · simp only [List.cons_append, List.nil_append, readYear?_plus, hmonth, hday,
      Option.bind_eq_bind, Option.bind_some, Option.pure_def, hafter hneg]
  · simp only [List.cons_append, List.nil_append, readYear?_decimalPadded, hmonth, hday,
      Option.bind_eq_bind, Option.bind_some, Option.pure_def, hafter hneg]

end Date

namespace DateTime

variable {t : DateTime}

theorem toList_text (t : DateTime) :
    t.text.toList = [' '].intercalate
      [['-'].intercalate t.toDate.pieces, [':'].intercalate t.timePieces] := by
  rw [text, String.toList_ofList, Date.pieces, yearText]
  split_ifs <;> simp [timePieces, List.intercalate_cons_cons]

theorem notMem_timePieces {c : Char} (hdigit : c.isDigit = false) :
    ∀ piece ∈ t.timePieces, c ∉ piece := by
  have hdigits := notMem_decimalPadded hdigit 2
  intro piece hpiece
  simp only [timePieces, List.mem_cons, List.not_mem_nil, or_false] at hpiece
  rcases hpiece with rfl | rfl | rfl
  · exact hdigits _
  · exact hdigits _
  · exact hdigits _

/-- The text of a date and time is read back. -/
theorem read?_text (h : t.Exists) : read? t.text.toList = some t := by
  have hhour : t.hour < 100 := by have := h.hour_lt; omega
  have hminute : t.minute < 100 := by have := h.minute_lt; omega
  have hsecond : t.second < 100 := by have := h.second_lt; omega
  have hsplit : t.text.toList.splitOn ' ' =
      [['-'].intercalate t.toDate.pieces, [':'].intercalate t.timePieces] := by
    rw [toList_text]
    refine List.splitOn_intercalate ' ' ?_ (List.cons_ne_nil _ _)
    intro part hpart
    rcases List.mem_pair.1 hpart with rfl | rfl
    · exact notMem_intercalate (by decide) (Date.notMem_pieces rfl (by decide))
    · exact notMem_intercalate (by decide) (notMem_timePieces rfl)
  have hsplitTime : ([':'].intercalate t.timePieces).splitOn ':' = t.timePieces :=
    List.splitOn_intercalate ':' (notMem_timePieces rfl) (List.cons_ne_nil _ _)
  rw [read?, hsplit]
  simp only [hsplitTime]
  simp only [timePieces, Date.read?_pieces h.toExists, readTwo?_decimalPadded hhour,
    readTwo?_decimalPadded hminute, readTwo?_decimalPadded hsecond, Option.bind_eq_bind,
    Option.bind_some, Option.pure_def]

/-- The text begins with a sign for years after 9999 and before 0, and with a digit otherwise. -/
theorem head?_text (t : DateTime) :
    (t.text.toList.head? = some '+' ↔ 9999 < t.year) ∧
      (t.text.toList.head? = some '-' ↔ t.year < 0) := by
  obtain ⟨c, digits, hdigits⟩ :=
    List.exists_cons_of_ne_nil (writes_decimalPadded 4 t.year.natAbs).nonempty
  have hc : c.isDigit := isDigit_of_mem_decimalPadded (hdigits ▸ List.mem_cons_self)
  have hplus : c ≠ '+' := by rintro rfl; exact absurd hc (by decide)
  have hminus : c ≠ '-' := by rintro rfl; exact absurd hc (by decide)
  rw [text, String.toList_ofList, yearText, hdigits]
  split_ifs with hneg hlarge
  · have hsmall : ¬ 9999 < t.year := by omega
    simp [hneg, hsmall]
  · simp [hneg, hlarge]
  · simp [hneg, hlarge, hplus, hminus]

end DateTime

/-! ## Starts -/

namespace ConnectionInfo

/-- What is told of a start, where both `started` and `now` are seconds since the start of 1970. -/
structure Told (started now : Int) : Prop where
  /-- There is a dash for those starts whose date cannot be shown. -/
  dash : describeSince started now = "-".toList ↔
    started < DateTime.firstShown.number ∨ DateTime.lastShown.number < started
  /-- All others are told by their date and time, and by the seconds since then. These are at most
      as many as can be counted, and none if the start is still to come. -/
  shown : DateTime.firstShown.number ≤ started → started ≤ DateTime.lastShown.number →
    ∃ elapsed : UInt64, (elapsed.toNat : Int) = max 0 (min (now - started) Int64.maxValue.toInt) ∧
      describeSince started now = (DateTime.ofSeconds started).text.toList ++ " (".toList ++
        (Duration.ofSecs elapsed.toNat).words.toList ++ " ago)".toList ∧
      (now ≤ started → (Duration.ofSecs elapsed.toNat).words = "0 seconds")
  /-- The date and time is the one that is reached by counting the days of the calendar. -/
  read : ∃ time : DateTime, DateTime.read? (DateTime.ofSeconds started).text.toList = some time ∧
    time.Exists ∧ time.number = started ∧
    ((DateTime.ofSeconds started).text.toList.head? = some '+' ↔ 9999 < time.year) ∧
    ((DateTime.ofSeconds started).text.toList.head? = some '-' ↔ time.year < 0)
  /-- Other starts have other dates and times. -/
  distinct : ∀ other, (DateTime.ofSeconds other).text = (DateTime.ofSeconds started).text →
    other = started

/-- The seconds since a start can be counted. -/
theorem exists_elapsed (difference : Int) : ∃ elapsed : UInt64,
    elapsed.toNat = (min difference longest).toNat ∧
      (elapsed.toNat : Int) = max 0 (min difference Int64.maxValue.toInt) := by
  have hlongest : longest = 9223372036854775807 := by decide
  have hlt : (min difference longest).toNat < UInt64.size := by
    rw [hlongest, UInt64.size]
    omega
  refine ⟨.ofNat (min difference longest).toNat, UInt64.toNat_ofNat_of_lt' hlt, ?_⟩
  rw [UInt64.toNat_ofNat_of_lt' hlt, Int.toNat_eq_max, max_comm]
  rfl

theorem words_of_nonpos {difference : Int} (h : difference ≤ 0) :
    (Duration.ofSecs (min difference longest).toNat).words = "0 seconds" := by
  have hzero : (min difference longest).toNat = 0 :=
    Int.toNat_of_nonpos (le_trans (min_le_left _ _) h)
  rw [hzero]
  rfl

theorem text_ofSeconds_injective {started other : Int}
    (h : (DateTime.ofSeconds other).text = (DateTime.ofSeconds started).text) :
    other = started := by
  have hread := DateTime.read?_text (DateTime.exists_ofSeconds other)
  rw [h, DateTime.read?_text (DateTime.exists_ofSeconds started)] at hread
  rw [← DateTime.number_ofSeconds other, ← Option.some.inj hread, DateTime.number_ofSeconds]

theorem describeSince_of_shown {started : Int} (now : Int)
    (h : DateTime.firstShown.number ≤ started ∧ started ≤ DateTime.lastShown.number) :
    describeSince started now = (DateTime.ofSeconds started).text.toList ++ " (".toList ++
      (Duration.ofSecs (min (now - started) longest).toNat).words.toList ++ " ago)".toList := by
  rw [describeSince, DateTime.ofSeconds?_eq, if_pos h]

theorem describeSince_of_not_shown {started : Int} (now : Int)
    (h : ¬ (DateTime.firstShown.number ≤ started ∧ started ≤ DateTime.lastShown.number)) :
    describeSince started now = "-".toList := by
  rw [describeSince, DateTime.ofSeconds?_eq, if_neg h]

/-- There is a bracket in what is told of a start, and none in a dash. -/
theorem describeSince_ne_dash {started : Int} (now : Int)
    (h : DateTime.firstShown.number ≤ started ∧ started ≤ DateTime.lastShown.number) :
    describeSince started now ≠ "-".toList := fun heq => by
  have hbracket : '(' ∈ describeSince started now := by
    rw [describeSince_of_shown now h]
    exact List.mem_append_left _ (List.mem_append_left _ (List.mem_append_right _ (by decide)))
  rw [heq] at hbracket
  exact absurd hbracket (by decide)

/-- Every start is told, whatever the time is. -/
theorem told_describeSince (started now : Int) : Told started now where
  dash := by
    by_cases h : DateTime.firstShown.number ≤ started ∧ started ≤ DateTime.lastShown.number
    · exact iff_of_false (describeSince_ne_dash now h)
        (not_or.2 ⟨not_lt.2 h.1, not_lt.2 h.2⟩)
    · exact iff_of_true (describeSince_of_not_shown now h)
        ((not_and_or.1 h).imp not_le.1 not_le.1)
  shown hfirst hlast := by
    obtain ⟨elapsed, helapsed, hmax⟩ := exists_elapsed (now - started)
    refine ⟨elapsed, hmax, ?_, fun hle => ?_⟩
    · rw [describeSince_of_shown now ⟨hfirst, hlast⟩, helapsed]
    · rw [helapsed, words_of_nonpos (sub_nonpos.2 hle)]
  read := by
    have hhead := DateTime.head?_text (DateTime.ofSeconds started)
    exact ⟨_, DateTime.read?_text (DateTime.exists_ofSeconds started),
      DateTime.exists_ofSeconds started, DateTime.number_ofSeconds started, hhead.1, hhead.2⟩
  distinct _ := text_ofSeconds_injective

/-- The last second of the year before 0, which is a leap year. -/
example : describeSince (-62167219201) 0 =
    "-0001-12-31 23:59:59 (719528 days ago)".toList := by
  decide +kernel

end ConnectionInfo

end VpnTray
