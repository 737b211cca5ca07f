import VpnTray.Duration
import VpnTray.Proofs.Text.Number
import VpnTray.Proofs.Text.Words

/-!
# Reading durations

A duration is shown as one amount of a unit, or as two: hours with minutes, days with hours. The
two formats differ in how an amount that stands alone is written, `45s` or `45 seconds`. One
reader serves both: it takes the numbers and the names of units in a text by turns
(`amounts?`), and adds the amounts up (`shownSeconds?`).

* `wholeUnits`: what is left of some seconds when they are shown: whole seconds below a minute,
  whole minutes below a day, and whole hours from then on;
* `amountsOf`: the amounts that are shown, of which none but the first can be zero;
* `toList_label`, `toList_words`: the two formats write just these amounts;
* `ReadsBack`: what makes a format faithful, as both are (`readsBack_formats`).
-/

namespace VpnTray

open Text

/-! ## Amounts -/

/-- A unit of time. -/
inductive TimeUnit
  | second
  | minute
  | hour
  | day
deriving DecidableEq, Repr

namespace TimeUnit

/-- The seconds in a unit. -/
def seconds : TimeUnit → Nat
  | second => 1
  | minute => 60
  | hour => 3600
  | day => 86400

/-- The name of a unit right behind a number. -/
def letter : TimeUnit → String
  | second => "s"
  | minute => "m"
  | hour => "h"
  | day => "d"

/-- The name of a unit as a word of its own. -/
def word : TimeUnit → String
  | second => "seconds"
  | minute => "minutes"
  | hour => "hours"
  | day => "days"

/-- The unit with a name. -/
def ofName? (name : Text) : Option TimeUnit :=
  [second, minute, hour, day].find? fun unit =>
    name = unit.letter.toList ∨ name = unit.word.toList

@[simp] theorem ofName?_letter (unit : TimeUnit) : ofName? unit.letter = some unit := by
  cases unit <;> decide

@[simp] theorem ofName?_word (unit : TimeUnit) : ofName? unit.word = some unit := by
  cases unit <;> decide

end TimeUnit

/-- Some units of time. -/
structure Amount where
  count : Nat
  unit : TimeUnit
deriving DecidableEq, Repr

namespace Amount

def seconds (amount : Amount) : Nat := amount.count * amount.unit.seconds

/-- An amount as one word. -/
def short (amount : Amount) : Text := decimal amount.count ++ amount.unit.letter.toList

/-- An amount as two words. -/
def long (amount : Amount) : Text := decimal amount.count ++ ' ' :: amount.unit.word.toList

end Amount

/-- The seconds in some amounts. -/
def totalSeconds (amounts : List Amount) : Nat :=
  amounts.foldr (fun amount seconds => amount.seconds + seconds) 0

/-! ## The reader -/

/-- The digits that a word begins with and what follows them, as far as there is any. -/
def wordPieces (word : Text) : List Text :=
  [word.takeWhile Char.isDigit, word.dropWhile Char.isDigit].filter (!·.isEmpty)

/-- Reads numbers and the names of units by turns. -/
def readAmounts? : List Text → Option (List Amount)
  | [] => some []
  | [_] => none
  | digits :: name :: pieces => do
    let count ← readDigits? digits
    let unit ← TimeUnit.ofName? name
    return ⟨count, unit⟩ :: (← readAmounts? pieces)

/-- The amounts in a text. -/
def amounts? (text : Text) : Option (List Amount) :=
  readAmounts? ((words text).flatMap wordPieces)

/-- The seconds that a text tells. -/
def shownSeconds? (text : Text) : Option Nat := (amounts? text).map totalSeconds

theorem readAmounts?_cons (amount : Amount) {name : Text}
    (hname : TimeUnit.ofName? name = some amount.unit) (pieces : List Text) :
    readAmounts? (decimal amount.count :: name :: pieces) =
      (readAmounts? pieces).map (amount :: ·) := by
  rw [readAmounts?, readDigits?_decimal, hname]
  cases readAmounts? pieces <;> rfl

theorem wordPieces_decimal (n : Nat) : wordPieces (decimal n) = [decimal n] := by
  have htake : (decimal n).takeWhile Char.isDigit = decimal n :=
    List.takeWhile_eq_self_iff.2 fun _ => isDigit_of_mem_decimal
  have hdrop : (decimal n).dropWhile Char.isDigit = [] :=
    List.dropWhile_eq_nil_iff.2 fun _ => isDigit_of_mem_decimal
  simp [wordPieces, htake, hdrop, decimal_ne_nil]

theorem wordPieces_short (amount : Amount) :
    wordPieces amount.short = [decimal amount.count, amount.unit.letter] := by
  have hletter : amount.unit.letter.toList.takeWhile Char.isDigit = [] ∧
      amount.unit.letter.toList.dropWhile Char.isDigit = amount.unit.letter.toList ∧
      amount.unit.letter.toList ≠ [] := by
    cases amount.unit <;> decide
  obtain ⟨htake, hdrop, hne⟩ := hletter
  have hdigits : ∀ c ∈ decimal amount.count, c.isDigit := fun _ => isDigit_of_mem_decimal
  rw [wordPieces, Amount.short, List.takeWhile_append_of_pos hdigits, htake,
    List.dropWhile_append_of_pos hdigits, hdrop, List.append_nil]
  simp [decimal_ne_nil, hne]

theorem words_short (amount : Amount) : words amount.short = [amount.short] := by
  have hletter : ∀ c ∈ amount.unit.letter.toList, isBlank c = false := by
    cases amount.unit <;> exact List.forall_mem_singleton.2 rfl
  exact words_of_noBlank (List.forall_mem_append.2 ⟨noBlank_decimal _, hletter⟩)
    (List.append_ne_nil_of_left_ne_nil (decimal_ne_nil _) _)

theorem readAmounts?_shorts (amounts : List Amount) :
    readAmounts? ((amounts.map Amount.short).flatMap wordPieces) = some amounts := by
  induction amounts with
  | nil => rfl
  | cons amount amounts ih =>
    rw [List.map_cons, List.flatMap_cons, wordPieces_short, List.cons_append, List.singleton_append,
      readAmounts?_cons amount (TimeUnit.ofName?_letter _), ih]
    rfl

theorem words_shorts (amounts : List Amount) :
    words ([' '].intercalate (amounts.map Amount.short)) = amounts.map Amount.short := by
  induction amounts with
  | nil => rfl
  | cons first amounts ih =>
    cases amounts with
    | nil => rw [List.map_singleton, List.intercalate_singleton, words_short]
    | cons second amounts =>
      have hblank : isBlank ' ' := by decide
      rw [List.map_cons, List.map_cons, List.intercalate_cons_cons, List.append_assoc,
        List.singleton_append, words_append_blank hblank, words_short, ← List.map_cons, ih]
      rfl

/-- Amounts that are written in one word each are read back. -/
theorem amounts?_shorts (amounts : List Amount) :
    amounts? ([' '].intercalate (amounts.map Amount.short)) = some amounts := by
  rw [amounts?, words_shorts, readAmounts?_shorts]

/-- An amount that is written in two words is read back. -/
theorem amounts?_long (amount : Amount) : amounts? amount.long = some [amount] := by
  have hword : words amount.unit.word.toList = [amount.unit.word.toList] ∧
      wordPieces amount.unit.word.toList = [amount.unit.word.toList] := by
    cases amount.unit <;> decide
  have hblank : isBlank ' ' := by decide
  rw [amounts?, Amount.long, words_append_blank hblank,
    words_of_noBlank (noBlank_decimal _) (decimal_ne_nil _), hword.1, List.singleton_append,
    List.flatMap_cons, List.flatMap_cons, wordPieces_decimal, hword.2]
  exact readAmounts?_cons amount (TimeUnit.ofName?_word _) []

/-! ## What is shown -/

/-- What is left of some seconds when they are shown: whole seconds below a minute, whole minutes
    below a day, and whole hours from then on. -/
def wholeUnits (seconds : Nat) : Nat :=
  if seconds < 60 then seconds
  else if seconds < 86400 then seconds / 60 * 60
  else seconds / 3600 * 3600

/-- Two amounts, of which the second one is left out if it is zero. -/
def twoAmounts (count : Nat) (unit : TimeUnit) (rest : Nat) (smaller : TimeUnit) : List Amount :=
  ⟨count, unit⟩ :: if rest = 0 then [] else [⟨rest, smaller⟩]

/-- The amounts by which some seconds are shown. -/
def amountsOf (seconds : Nat) : List Amount :=
  if seconds < 60 then [⟨seconds, .second⟩]
  else if seconds < 3600 then [⟨seconds / 60, .minute⟩]
  else if seconds < 86400 then twoAmounts (seconds / 3600) .hour (seconds / 60 % 60) .minute
  else twoAmounts (seconds / 86400) .day (seconds / 3600 % 24) .hour

theorem totalSeconds_singleton (amount : Amount) : totalSeconds [amount] = amount.seconds := rfl

theorem totalSeconds_twoAmounts (count : Nat) (unit : TimeUnit) (rest : Nat) (smaller : TimeUnit) :
    totalSeconds (twoAmounts count unit rest smaller) =
      count * unit.seconds + rest * smaller.seconds := by
  unfold twoAmounts
  split
  next h => rw [totalSeconds_singleton, h, Nat.zero_mul]; rfl
  next => rfl

/-- The amounts tell what is left of the seconds. -/
theorem totalSeconds_amountsOf (seconds : Nat) :
    totalSeconds (amountsOf seconds) = wholeUnits seconds := by
  unfold amountsOf wholeUnits
  split_ifs <;>
    simp only [totalSeconds_singleton, totalSeconds_twoAmounts, Amount.seconds,
      TimeUnit.seconds] <;>
    omega

/-- What is not shown makes no difference. -/
theorem amountsOf_wholeUnits (seconds : Nat) :
    amountsOf (wholeUnits seconds) = amountsOf seconds := by
  have hminutes : seconds / 60 * 60 / 60 = seconds / 60 := by omega
  unfold wholeUnits
  split_ifs with hminute hday
  · rfl
  · have hhours : seconds / 60 * 60 / 3600 = seconds / 3600 := by omega
    unfold amountsOf
    rw [hminutes, hhours]
    split_ifs <;> first | rfl | omega
  · have hdays : seconds / 3600 * 3600 / 86400 = seconds / 86400 := by omega
    have hhours : seconds / 3600 * 3600 / 3600 = seconds / 3600 := by omega
    unfold amountsOf
    rw [hdays, hhours]
    split_ifs <;> first | rfl | omega

theorem wholeUnits_mono {seconds more : Nat} (h : seconds ≤ more) :
    wholeUnits seconds ≤ wholeUnits more := by
  unfold wholeUnits
  split_ifs <;> omega

theorem mem_twoAmounts_iff {amount : Amount} {count : Nat} {unit : TimeUnit} {rest : Nat}
    {smaller : TimeUnit} :
    amount ∈ twoAmounts count unit rest smaller ↔
      amount = ⟨count, unit⟩ ∨ rest ≠ 0 ∧ amount = ⟨rest, smaller⟩ := by
  unfold twoAmounts
  split
  next h => simp [h]
  next h => simp [h]

/-- No part is zero, but that of less than a minute, and none makes a unit of the part before it. -/
theorem count_of_mem_amountsOf {seconds : Nat} {amount : Amount} (h : amount ∈ amountsOf seconds) :
    (amount.unit = .minute → 1 ≤ amount.count ∧ amount.count ≤ 59) ∧
      (amount.unit = .hour → 1 ≤ amount.count ∧ amount.count ≤ 23) := by
  unfold amountsOf at h
  split_ifs at h with hminute hhour hday
  · obtain rfl := List.mem_singleton.1 h
    exact ⟨nofun, nofun⟩
  · obtain rfl := List.mem_singleton.1 h
    have hcount : 1 ≤ seconds / 60 ∧ seconds / 60 ≤ 59 := by omega
    exact ⟨fun _ => hcount, nofun⟩
  · obtain rfl | ⟨hne, rfl⟩ := mem_twoAmounts_iff.1 h
    · have hcount : 1 ≤ seconds / 3600 ∧ seconds / 3600 ≤ 23 := by omega
      exact ⟨nofun, fun _ => hcount⟩
    · have hcount : 1 ≤ seconds / 60 % 60 ∧ seconds / 60 % 60 ≤ 59 := by omega
      exact ⟨fun _ => hcount, nofun⟩
  · obtain rfl | ⟨hne, rfl⟩ := mem_twoAmounts_iff.1 h
    · exact ⟨nofun, nofun⟩
    · have hcount : 1 ≤ seconds / 3600 % 24 ∧ seconds / 3600 % 24 ≤ 23 := by omega
      exact ⟨nofun, fun _ => hcount⟩

/-! ## The two formats -/

/-- Amounts as they are written together: each in one word. -/
def joined (amounts : List Amount) : Text := [' '].intercalate (amounts.map Amount.short)

theorem joined_twoAmounts (count : Nat) (unit : TimeUnit) (rest : Nat) (smaller : TimeUnit) :
    joined (twoAmounts count unit rest smaller) =
      if rest = 0 then Amount.short ⟨count, unit⟩
      else Amount.short ⟨count, unit⟩ ++ ' ' :: Amount.short ⟨rest, smaller⟩ := by
  unfold joined twoAmounts
  split
  · exact List.intercalate_singleton
  · rw [List.map_cons, List.map_singleton, List.intercalate_cons_cons, List.intercalate_singleton,
      List.append_assoc, List.singleton_append]

namespace Duration

variable (d : Duration)

theorem hours_lt_iff (seconds : Nat) : seconds / 3600 < 24 ↔ seconds < 86400 := by omega

theorem hours_div (seconds : Nat) : seconds / 3600 / 24 = seconds / 86400 := by omega

theorem toList_one (count : Nat) (name : String) :
    (toString count ++ toString name).toList = decimal count ++ name.toList := by
  rw [String.toList_append]
  exact congrArg (· ++ name.toList) Nat.toList_repr

theorem toList_two (count rest : Nat) (name smaller : String) :
    (toString count ++ toString name ++ toString rest ++ toString smaller).toList =
      decimal count ++ (name.toList ++ (decimal rest ++ smaller.toList)) := by
  rw [String.append_assoc, String.toList_append, toList_one, toList_one, List.append_assoc]

/-- The short text writes each amount as one word. -/
theorem toList_label : d.label.toList = joined (amountsOf d.secs) := by
  unfold label amountsOf
  simp only [hours_lt_iff, hours_div]
  split_ifs
  · rw [toList_one]
    exact List.intercalate_singleton.symm
  · rw [toList_one]
    exact List.intercalate_singleton.symm
  all_goals
    rw [joined_twoAmounts]
    split
    next hzero => rw [toList_one, if_pos hzero]; rfl
    next hne => rw [toList_two, if_neg hne]; simp [Amount.short, TimeUnit.letter]

/-- The other text writes an amount that stands alone as two words. -/
theorem toList_words : d.words.toList =
    match amountsOf d.secs with
    | [amount] => amount.long
    | amounts => joined amounts := by
  unfold words amountsOf
  simp only [hours_lt_iff, hours_div]
  split_ifs with hminute hhour hday hminutes hhours
  · rw [toList_one]; simp [Amount.long, TimeUnit.word]
  · rw [toList_one]; simp [Amount.long, TimeUnit.word]
  · rw [toList_two, twoAmounts, if_neg (Nat.ne_of_gt hminutes)]
    simp [joined, Amount.short, TimeUnit.letter]
  · rw [toList_one, twoAmounts, if_pos (Nat.eq_zero_of_not_pos hminutes)]
    simp [Amount.long, TimeUnit.word]
  · rw [toList_two, twoAmounts, if_neg (Nat.ne_of_gt hhours)]
    simp [joined, Amount.short, TimeUnit.letter]
  · rw [toList_one, twoAmounts, if_pos (Nat.eq_zero_of_not_pos hhours)]
    simp [Amount.long, TimeUnit.word]

end Duration

/-! ## Reading back -/

/-- A format shows the amounts of a duration, and nothing else. -/
structure Shows (format : Duration → String) : Prop where
  amounts : ∀ d, amounts? (format d).toList = some (amountsOf d.secs)
  congr : ∀ d e, amountsOf d.secs = amountsOf e.secs → format d = format e

theorem shows_label : Shows Duration.label where
  amounts d := by rw [Duration.toList_label]; exact amounts?_shorts _
  congr d e h := String.toList_inj.1 (by rw [Duration.toList_label, Duration.toList_label, h])

theorem shows_words : Shows Duration.words where
  amounts d := by
    rw [Duration.toList_words]
    split
    next amount h => rw [h]; exact amounts?_long amount
    next => exact amounts?_shorts _
  congr d e h := String.toList_inj.1 (by rw [Duration.toList_words, Duration.toList_words, h])

/-- A format tells the whole units of each duration, and shows no part that is zero or that would
    make a whole unit of the part before it. -/
structure ReadsBack (format : Duration → String) : Prop where
  /-- What is read back is the duration in whole units. -/
  value : ∀ d, shownSeconds? (format d).toList = some (wholeUnits d.secs)
  /-- Two durations have the same text if and only if they are equal in whole units. -/
  eq_iff : ∀ d e, format d = format e ↔ wholeUnits d.secs = wholeUnits e.secs
  /-- Longer durations never show less. -/
  mono : ∀ d e, d.nanos ≤ e.nanos → ∀ shown ∈ shownSeconds? (format d).toList,
    ∀ more ∈ shownSeconds? (format e).toList, shown ≤ more
  /-- A part in minutes is between 1 and 59. -/
  minutes : ∀ d, ∀ amounts ∈ amounts? (format d).toList, ∀ amount ∈ amounts,
    amount.unit = .minute → 1 ≤ amount.count ∧ amount.count ≤ 59
  /-- A part in hours is between 1 and 23, beside days as well as without. -/
  hours : ∀ d, ∀ amounts ∈ amounts? (format d).toList, ∀ amount ∈ amounts,
    amount.unit = .hour → 1 ≤ amount.count ∧ amount.count ≤ 23

theorem Shows.readsBack {format : Duration → String} (h : Shows format) : ReadsBack format where
  value d := by rw [shownSeconds?, h.amounts, Option.map_some, totalSeconds_amountsOf]
  eq_iff d e := by
    constructor
    · intro heq
      have hamounts : some (amountsOf d.secs) = some (amountsOf e.secs) := by
        rw [← h.amounts d, ← h.amounts e, heq]
      rw [← totalSeconds_amountsOf, ← totalSeconds_amountsOf, Option.some.inj hamounts]
    · intro heq
      apply h.congr
      rw [← amountsOf_wholeUnits d.secs, heq, amountsOf_wholeUnits]
  mono d e hle shown hshown more hmore := by
    rw [shownSeconds?, h.amounts, Option.map_some, totalSeconds_amountsOf, Option.mem_some]
      at hshown hmore
    subst hshown hmore
    exact wholeUnits_mono (Nat.div_le_div_right hle)
  minutes d amounts hamounts amount hmem hunit := by
    rw [h.amounts, Option.mem_some] at hamounts
    exact (count_of_mem_amountsOf (hamounts ▸ hmem)).1 hunit
  hours d amounts hamounts amount hmem hunit := by
    rw [h.amounts, Option.mem_some] at hamounts
    exact (count_of_mem_amountsOf (hamounts ▸ hmem)).2 hunit

/-- Both formats tell each duration in the same whole units. -/
theorem readsBack_formats : ReadsBack Duration.label ∧ ReadsBack Duration.words :=
  ⟨shows_label.readsBack, shows_words.readsBack⟩

end VpnTray
