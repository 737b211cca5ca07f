import Mathlib.Algebra.BigOperators.Intervals
import Mathlib.Data.Int.SuccPred
import Mathlib.Tactic.IntervalCases
import Mathlib.Tactic.Ring
import VpnTray.Calendar

/-!
# Counting days

In the proleptic Gregorian calendar a year is a leap year if it is divisible by four, and not by
hundred unless by four hundred. Days are counted by adding up the lengths of the years and of the
months before (`Date.number`), and so are the seconds of a date and time (`DateTime.number`).

The program computes dates instead, in eras of 400 years that begin in March. For dates that exist
the computation is the count (`Date.number_eq_toDays`), and it is undone by the computation of the
date of a day (`Date.toDays_ofDays`), whose result always exists (`Date.exists_ofDays`). The year of
a day within its era comes of one division. It grows with the day and it is right for the first and
the last day of each year, hence for the days between them (`yearOfEra_spec`).
-/

namespace VpnTray

/-! ## The calendar -/

/-- A year with a day more than the others. -/
def IsLeap (year : Int) : Prop := 4 ∣ year ∧ (100 ∣ year → 400 ∣ year)

instance : DecidablePred IsLeap := fun year =>
  inferInstanceAs (Decidable (4 ∣ year ∧ (100 ∣ year → 400 ∣ year)))

/-- The days that a year has more than 365. -/
def leapDays (year : Int) : Nat := if IsLeap year then 1 else 0

/-- The days of a year. -/
def yearLength (year : Int) : Nat := 365 + leapDays year

/-- The days of a month. -/
def monthLength (year : Int) : Nat → Nat
  | 2 => 28 + leapDays year
  | 4 | 6 | 9 | 11 => 30
  | _ => 31

/-- The days from the first day of 1970 to the first day of a year: those of the years from 1970 on,
    or of the years before 1970. -/
def yearStart (year : Int) : Int :=
  ∑ n ∈ Finset.range (year - 1970).toNat, (yearLength (1970 + n) : Int) -
    ∑ n ∈ Finset.range (1970 - year).toNat, (yearLength (1969 - n) : Int)

/-- The days from the first day of a year to the first day of a month. -/
def monthStart (year : Int) (month : Nat) : Nat :=
  ∑ m ∈ Finset.Ico 1 month, monthLength year m

namespace Date

/-- There is such a date. -/
structure Exists (d : Date) : Prop where
  month_pos : 1 ≤ d.month
  month_le : d.month ≤ 12
  day_pos : 1 ≤ d.day
  day_le : d.day ≤ monthLength d.year d.month

/-- The days from the first day of 1970 to a date. -/
def number (d : Date) : Int := yearStart d.year + monthStart d.year d.month + d.day - 1

end Date

namespace DateTime

/-- There is such a date and time. -/
structure Exists (t : DateTime) : Prop extends t.toDate.Exists where
  hour_lt : t.hour < 24
  minute_lt : t.minute < 60
  second_lt : t.second < 60

/-- The seconds from the start of 1970 to a date and time. -/
def number (t : DateTime) : Int :=
  t.toDate.number * 86400 + t.hour * 3600 + t.minute * 60 + t.second

end DateTime

/-! ## Counting -/

theorem yearStart_add_one (year : Int) :
    yearStart (year + 1) = yearStart year + yearLength year := by
  obtain h | h := le_or_gt 1970 year
  · have hafter : (year + 1 - 1970).toNat = (year - 1970).toNat + 1 := by omega
    have hbefore : (1970 - (year + 1)).toNat = (1970 - year).toNat := by omega
    have hlast : 1970 + ((year - 1970).toNat : Int) = year := by omega
    rw [yearStart, yearStart, hafter, hbefore, Finset.sum_range_succ, hlast]
    ring
  · have hafter : (year + 1 - 1970).toNat = (year - 1970).toNat := by omega
    have hbefore : (1970 - year).toNat = (1970 - (year + 1)).toNat + 1 := by omega
    have hlast : 1969 - ((1970 - (year + 1)).toNat : Int) = year := by omega
    rw [yearStart, yearStart, hafter, hbefore, Finset.sum_range_succ, hlast]
    ring

theorem leapDays_eq (year : Int) :
    (leapDays year : Int) = (year / 4 - (year - 1) / 4) - (year / 100 - (year - 1) / 100) +
      (year / 400 - (year - 1) / 400) := by
  rw [leapDays]
  split
  next h => obtain ⟨h4, h100⟩ := h; omega
  next h => simp only [IsLeap] at h; omega

theorem leapDays_le (year : Int) : leapDays year ≤ 1 := by rw [leapDays]; split <;> decide

/-- The first day of a year, by the leap years before it. -/
theorem yearStart_eq (year : Int) :
    yearStart year =
      365 * (year - 1970) + ((year - 1) / 4 - (year - 1) / 100 + (year - 1) / 400) - 477 := by
  -- The years are counted in both directions from 1970 on.
  induction year using Int.inductionOn' with
  | b => exact 1970
  | zero => decide
  | succ year _ ih =>
    have hleap := leapDays_eq year
    rw [yearStart_add_one, yearLength, ih]
    omega
  | pred year _ ih =>
    have hleap := leapDays_eq (year - 1)
    have hnext := yearStart_add_one (year - 1)
    rw [sub_add_cancel, yearLength, ih] at hnext
    omega

theorem yearStart_lt_iff (year other : Int) : yearStart year < yearStart other ↔ year < other := by
  have hmono : StrictMono yearStart := by
    refine strictMono_int_of_lt_succ fun year => ?_
    rw [yearStart_add_one, yearLength]
    omega
  exact hmono.lt_iff_lt

theorem monthStart_add_one (year : Int) {month : Nat} (h : 1 ≤ month) :
    monthStart year (month + 1) = monthStart year month + monthLength year month :=
  Finset.sum_Ico_succ_top h _

/-- Before the leap day, there is one month only. -/
theorem monthStart_of_le_two (year : Int) {month : Nat} (h : 1 ≤ month) (h' : month ≤ 2) :
    monthStart year month = 31 * (month - 1) := by
  interval_cases month <;> rfl

/-- From March on, the months have 30 and 31 days by turns, but for August. -/
theorem monthStart_of_three_le (year : Int) {month : Nat} (h : 3 ≤ month) (h' : month ≤ 12) :
    monthStart year month = 59 + leapDays year + (153 * (month - 3) + 2) / 5 := by
  induction month, h using Nat.le_induction with
  | base =>
    rw [monthStart_add_one year one_le_two, monthStart_of_le_two year one_le_two le_rfl,
      monthLength]
    omega
  | succ month h ih =>
    have hlt : month < 12 := h'
    have hlength : monthLength year month =
        (153 * (month - 2) + 2) / 5 - (153 * (month - 3) + 2) / 5 := by
      interval_cases month <;> rfl
    rw [monthStart_add_one year (le_trans (by decide) h), ih hlt.le, hlength]
    omega

namespace Date

variable {d : Date}

/-- For dates that exist, the computation of the days is the count. -/
theorem number_eq_toDays (h : d.Exists) : d.number = d.toDays := by
  have hleap := leapDays_eq d.year
  have hpos := h.month_pos
  have hday := h.day_pos
  obtain hmonth | hmonth := le_or_gt d.month 2
  · simp only [number, toDays, epoch, yearStart_eq, monthStart_of_le_two _ h.month_pos hmonth,
      if_pos hmonth, if_neg (Nat.not_lt_of_le hmonth)]
    omega
  · simp only [number, toDays, epoch, yearStart_eq, monthStart_of_three_le _ hmonth h.month_le,
      if_neg (Nat.not_le_of_lt hmonth), if_pos hmonth]
    omega

end Date

/-! ## Eras -/

/-- The days from the start of an era to the start of one of its years, which begin in March. -/
def eraYearStart (year : Nat) : Nat := 365 * year + year / 4 - year / 100 + year / 400

/-- The leap years are the same ones in each era. -/
theorem yearLength_add (era year : Int) : yearLength (era * 400 + year) = yearLength year := by
  have hiff : IsLeap (era * 400 + year) ↔ IsLeap year := by
    simp only [IsLeap]
    omega
  simp only [yearLength, leapDays, hiff]

theorem eraYearStart_add_one (era : Int) (year : Nat) :
    eraYearStart (year + 1) = eraYearStart year + yearLength (era * 400 + year + 1) := by
  have hleap := leapDays_eq (year + 1 : Nat)
  have hbefore : ((year + 1 : Nat) - 1 : Int) = year := by omega
  have hafter : era * 400 + year + 1 = era * 400 + (year + 1 : Nat) := by omega
  rw [hbefore] at hleap
  rw [hafter, yearLength_add, yearLength]
  simp only [eraYearStart]
  omega

/-- The year of a day within an era. -/
def yearOfEra (day : Nat) : Nat := (day - day / 1460 + day / 36524 - day / 146096) / 365

theorem yearOfEra_mono {day later : Nat} (h : day ≤ later) : yearOfEra day ≤ yearOfEra later := by
  have hquarters : day - day / 1460 ≤ later - later / 1460 := by omega
  have hcenturies : day / 36524 - day / 146096 ≤ later / 36524 - later / 146096 := by omega
  exact Nat.div_le_div_right (by omega)

/-- The computation of the year is right for the first day of each year, and for the last one. -/
theorem yearOfEra_eraYearStart : ∀ year < 400,
    yearOfEra (eraYearStart year) = year ∧ yearOfEra (eraYearStart (year + 1) - 1) = year := by
  decide +kernel

/-- It is right for all days, as it grows with them. -/
theorem yearOfEra_spec (day : Nat) (h : day < 146097) :
    yearOfEra day < 400 ∧ eraYearStart (yearOfEra day) ≤ day ∧
      day < eraYearStart (yearOfEra day + 1) := by
  have hlast : yearOfEra day ≤ 399 := yearOfEra_mono (Nat.le_of_lt_succ h)
  generalize hyear : yearOfEra day = year at hlast ⊢
  refine ⟨Nat.lt_succ_of_le hlast, ?_, ?_⟩
  · -- No day up to the last one of the year before is in this year or in a later one.
    by_contra! hlt
    cases year with
    | zero => exact absurd hlt (Nat.not_lt_zero day)
    | succ year =>
      have hle := yearOfEra_mono (Nat.le_sub_one_of_lt hlt)
      rw [hyear, (yearOfEra_eraYearStart year (by omega)).2] at hle
      omega
  · -- No day from the first one of the next year on is in this year or in an earlier one.
    by_contra! hle
    have hne : year ≠ 399 := by
      rintro rfl
      exact absurd hle (Nat.not_le_of_lt h)
    have hle := yearOfEra_mono hle
    rw [hyear, (yearOfEra_eraYearStart (year + 1) (by omega)).1] at hle
    omega

namespace Date

/-- A date by its era, its year in the era, its month in the year and its day in the year, where
    eras and years begin in March. -/
def ofEra (era : Int) (year march day : Nat) : Date :=
  let month := if march < 10 then march + 3 else march - 9
  { year := era * 400 + year + if month ≤ 2 then 1 else 0
    month
    day := day - (153 * march + 2) / 5 + 1 }

/-- The month of a day within its year, by the first days of the months. -/
theorem march_spec (day : Nat) (h : day < 366) :
    (5 * day + 2) / 153 < 12 ∧ (153 * ((5 * day + 2) / 153) + 2) / 5 ≤ day ∧
      day < (153 * ((5 * day + 2) / 153 + 1) + 2) / 5 := by
  omega

/-- What the computation of the date of a day comes to. -/
theorem exists_ofDays_eq (days : Int) : ∃ (era : Int) (year march day : Nat),
    ofDays days = ofEra era year march day ∧ year < 400 ∧ march < 12 ∧
      (153 * march + 2) / 5 ≤ day ∧ day < (153 * (march + 1) + 2) / 5 ∧
      day < yearLength (era * 400 + year + 1) ∧
      days + epoch = era * 146097 + (eraYearStart year + day : Nat) := by
  obtain ⟨era, dayOfEra, hera, hdayOfEra⟩ : ∃ (era : Int) (dayOfEra : Nat),
      (days + epoch) / 146097 = era ∧ ((days + epoch) % 146097).toNat = dayOfEra := ⟨_, _, rfl, rfl⟩
  obtain ⟨year, hyearOfEra⟩ : ∃ year, yearOfEra dayOfEra = year := ⟨_, rfl⟩
  obtain ⟨day, hday⟩ : ∃ day, dayOfEra - (365 * year + year / 4 - year / 100) = day := ⟨_, rfl⟩
  have heq : ofDays days = ofEra era year ((5 * day + 2) / 153) day := by
    rw [← hday, ← hyearOfEra, ← hera, ← hdayOfEra]
    rfl
  obtain ⟨hyear, hstart, hend⟩ := yearOfEra_spec dayOfEra (by omega)
  rw [hyearOfEra] at hyear hstart hend
  have hstart_add : eraYearStart year + day = dayOfEra := by
    simp only [eraYearStart] at hstart ⊢
    omega
  have hlength : day < yearLength (era * 400 + year + 1) := by
    rw [eraYearStart_add_one era] at hend
    omega
  have hle := leapDays_le (era * 400 + year + 1)
  obtain ⟨hmarch, hfirst, hlast⟩ := march_spec day (by rw [yearLength] at hlength; omega)
  exact ⟨era, year, _, day, heq, hyear, hmarch, hfirst, hlast, hlength, by omega⟩

/-- The date of a day exists. -/
theorem exists_ofDays (days : Int) : (ofDays days).Exists := by
  obtain ⟨era, year, march, day, heq, -, hmarch, hstart, hend, hlength, -⟩ := exists_ofDays_eq days
  rw [heq]
  rw [yearLength] at hlength
  refine ⟨?_, ?_, Nat.le_add_left 1 _, ?_⟩
  · simp only [ofEra]; split <;> omega
  · simp only [ofEra]; split <;> omega
  · interval_cases march <;> simp [ofEra, monthLength] <;> omega

/-- The days to the date of a day are those that it was computed from. -/
theorem toDays_ofDays (days : Int) : (ofDays days).toDays = days := by
  obtain ⟨era, year, march, day, heq, hyear, hmarch, hstart, -, -, hdays⟩ := exists_ofDays_eq days
  rw [heq]
  have hera : (era * 400 + year : Int) / 400 = era := by omega
  have hyearOfEra : ((era * 400 + year : Int) % 400).toNat = year := by omega
  simp only [eraYearStart] at hdays
  -- January and February belong to the year that began in March before them.
  by_cases h : march < 10
  · have hmonth : ¬ march + 3 ≤ 2 ∧ 2 < march + 3 := by omega
    simp only [ofEra, toDays, if_pos h, if_neg hmonth.1, if_pos hmonth.2, add_zero,
      Nat.add_sub_cancel, hera, hyearOfEra]
    omega
  · have hmonth : march - 9 ≤ 2 ∧ ¬ 2 < march - 9 := by omega
    simp only [ofEra, toDays, if_neg h, if_pos hmonth.1, if_neg hmonth.2, add_sub_cancel_right,
      Nat.sub_add_cancel (Nat.le_of_succ_le (Nat.le_of_not_lt h)), hera, hyearOfEra]
    omega

/-- The date of a day is the date that is reached by counting. -/
theorem number_ofDays (days : Int) : (ofDays days).number = days := by
  rw [number_eq_toDays (exists_ofDays days), toDays_ofDays]

end Date

/-! ## Seconds -/

namespace Date

variable {d : Date}

theorem day_le_of_exists (h : d.Exists) : d.day ≤ 31 := by
  have hle : monthLength d.year d.month ≤ 31 := by
    have hleap := leapDays_le d.year
    unfold monthLength
    split <;> omega
  exact le_trans h.day_le hle

/-- A date lies within its year. -/
theorem number_mem_year (h : d.Exists) :
    yearStart d.year ≤ d.number ∧ d.number < yearStart (d.year + 1) := by
  have hfirst := h.day_pos
  have hlast := day_le_of_exists h
  have hpos := h.month_pos
  have hle := h.month_le
  rw [yearStart_add_one, yearLength, number]
  obtain hmonth | hmonth := le_or_gt d.month 2
  · rw [monthStart_of_le_two _ hpos hmonth]
    omega
  · rw [monthStart_of_three_le _ hmonth hle]
    omega

end Date

namespace DateTime

variable {t : DateTime}

/-- The date and time of some seconds exists. -/
theorem exists_ofSeconds (seconds : Int) : (ofSeconds seconds).Exists where
  toExists := Date.exists_ofDays _
  hour_lt := by simp only [ofSeconds]; omega
  minute_lt := by simp only [ofSeconds]; omega
  second_lt := by simp only [ofSeconds]; omega

/-- The date and time of some seconds is the one that is reached by counting. -/
theorem number_ofSeconds (seconds : Int) : (ofSeconds seconds).number = seconds := by
  have hdays : (ofSeconds seconds).toDate.number = seconds / 86400 := Date.number_ofDays _
  rw [number, hdays]
  simp only [ofSeconds]
  omega

theorem number_mem_year (h : t.Exists) :
    yearStart t.year * 86400 ≤ t.number ∧ t.number < yearStart (t.year + 1) * 86400 := by
  have hdate := Date.number_mem_year h.toExists
  have hhour := h.hour_lt
  have hminute := h.minute_lt
  have hsecond := h.second_lt
  rw [number]
  omega

/-- The first date and time that can be shown. -/
def firstShown : DateTime :=
  { year := -262143, month := 1, day := 1, hour := 0, minute := 0, second := 0 }

/-- The last date and time that can be shown. -/
def lastShown : DateTime :=
  { year := 262142, month := 12, day := 31, hour := 23, minute := 59, second := 59 }

theorem number_firstShown : firstShown.number = yearStart firstYear * 86400 := by
  have hmonth : monthStart firstYear 1 = 0 := rfl
  simp only [number, Date.number, firstShown, ← firstYear.eq_def, hmonth]
  omega

theorem number_lastShown : lastShown.number = yearStart (lastYear + 1) * 86400 - 1 := by
  have hmonth : monthStart lastYear 12 = 59 + leapDays lastYear + 275 :=
    monthStart_of_three_le _ (by decide) (by decide)
  rw [yearStart_add_one, yearLength]
  simp only [number, Date.number, lastShown, ← lastYear.eq_def, hmonth]
  omega

/-- The seconds of which the date and time can be shown. -/
theorem ofSeconds?_eq (seconds : Int) :
    ofSeconds? seconds =
      if firstShown.number ≤ seconds ∧ seconds ≤ lastShown.number then some (ofSeconds seconds)
      else none := by
  have hnumber := number_ofSeconds seconds
  have hyear := number_mem_year (exists_ofSeconds seconds)
  have hfirst : firstYear ≤ (ofSeconds seconds).year ↔ firstShown.number ≤ seconds := by
    have hstart := yearStart_lt_iff (ofSeconds seconds).year firstYear
    have hend := yearStart_lt_iff firstYear ((ofSeconds seconds).year + 1)
    rw [number_firstShown]
    omega
  have hlast : (ofSeconds seconds).year ≤ lastYear ↔ seconds ≤ lastShown.number := by
    have hstart := yearStart_lt_iff (ofSeconds seconds).year (lastYear + 1)
    have hend := yearStart_lt_iff (lastYear + 1) ((ofSeconds seconds).year + 1)
    rw [number_lastShown]
    omega
  simp only [ofSeconds?, ← hfirst, ← hlast, Bool.and_eq_true, decide_eq_true_eq]

end DateTime

end VpnTray
