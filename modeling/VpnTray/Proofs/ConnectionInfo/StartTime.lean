import VpnTray.ConnectionInfo.Sources
import VpnTray.Proofs.Text.Number

/-!
# When the client started

The service manager tells the start of the client in a line, in seconds since the start of 1970.
Behind the name of the property come blanks, at signs and the number, with a sign in front of it at
most, and nothing but blanks may stand around the line. Such a text tells one number
(`TellsStart.unique`). It is understood if and only if that is a number of 64 bits
(`startTime?_eq_some_iff`), so that no other number is ever taken for one of them.

* `TellsStart`: the grammar;
* `startLine`: the line as the service manager writes it;
* `Understood`: what is understood of a text, which holds of every text (`understood_startTime?`).
-/

namespace VpnTray.ConnectionInfo

open Text

variable {output value : Text} {n m : Int}

/-! ## The grammar -/

/-- Behind the name of the property there are blanks, at signs, and a number. -/
def TellsStart (output : Text) (n : Int) : Prop :=
  ∃ blanks ats number, Blank blanks ∧ WritesInt number n ∧
    trim output = "ActiveEnterTimestamp=".toList ++ blanks ++ List.replicate ats '@' ++ number

/-- What is dropped in front of a number are blanks and at signs, if there are no blanks behind. -/
theorem exists_blanks_ats (h : trim value = trimStart value) :
    ∃ blanks ats, Blank blanks ∧
      value = blanks ++ List.replicate ats '@' ++ (trim value).dropWhile (· == '@') := by
  refine ⟨value.takeWhile isBlank, ((trim value).takeWhile (· == '@')).length,
    fun c hc => List.mem_takeWhile_imp hc, ?_⟩
  have hats : (trim value).takeWhile (· == '@') =
      List.replicate ((trim value).takeWhile (· == '@')).length '@' :=
    List.eq_replicate_of_mem fun c hc => by simpa using List.mem_takeWhile_imp hc
  rw [← hats, List.append_assoc, List.takeWhile_append_dropWhile, h, trimStart,
    List.takeWhile_append_dropWhile]

/-- They are dropped up to the number, which begins with neither. -/
theorem dropWhile_trim_blanks_ats {blanks number : Text} (hblanks : Blank blanks) (ats : Nat)
    (hnumber : WritesInt number n) :
    (trim (blanks ++ List.replicate ats '@' ++ number)).dropWhile (· == '@') = number := by
  have hnoBlank : ∀ c ∈ List.replicate ats '@' ++ number, isBlank c = false :=
    List.forall_mem_append.2 ⟨fun c hc => List.eq_of_mem_replicate hc ▸ rfl, hnumber.noBlank⟩
  have hhead : ∀ c ∈ number.head?, (c == '@') = false := by
    intro c hc
    rcases hnumber.sign_or_digit c (List.mem_of_mem_head? hc) with rfl | rfl | hdigit
    · rfl
    · rfl
    · refine beq_eq_false_iff_ne.2 ?_
      rintro rfl
      exact absurd hdigit (by decide)
  rw [List.append_assoc, trim_append_left hblanks, (trimmed_of_noBlank hnoBlank).trim_eq,
    List.dropWhile_append_of_pos fun c hc => beq_iff_eq.2 (List.eq_of_mem_replicate hc),
    dropWhile_of_head hhead]

/-- The number in a text is its decimal form, with a sign and zeros in front at most. -/
theorem tellsStart_iff_decimal :
    TellsStart output n ↔ ∃ blanks ats sign zeros, Blank blanks ∧ Signs n sign ∧
      trim output = "ActiveEnterTimestamp=".toList ++ blanks ++ List.replicate ats '@' ++
        (sign ++ List.replicate zeros '0' ++ decimal n.natAbs) := by
  constructor
  · rintro ⟨blanks, ats, number, hblanks, hnumber, houtput⟩
    obtain ⟨sign, zeros, hsign, rfl⟩ := writesInt_iff.1 hnumber
    exact ⟨blanks, ats, sign, zeros, hblanks, hsign, houtput⟩
  · rintro ⟨blanks, ats, sign, zeros, hblanks, hsign, houtput⟩
    exact ⟨blanks, ats, _, hblanks, writesInt_iff.2 ⟨sign, zeros, hsign, rfl⟩, houtput⟩

/-- A number is told by what is left when everything in front of it is dropped. -/
theorem tellsStart_iff :
    TellsStart output n ↔ ∃ value, after? "ActiveEnterTimestamp=" (trim output) = some value ∧
      WritesInt ((trim value).dropWhile (· == '@')) n := by
  simp only [after?, List.isPrefixOf?_eq_some_iff_append_eq]
  constructor
  · rintro ⟨blanks, ats, number, hblanks, hnumber, houtput⟩
    refine ⟨blanks ++ List.replicate ats '@' ++ number, ?_, ?_⟩
    · rw [houtput, List.append_assoc, List.append_assoc, List.append_assoc]
    · rwa [dropWhile_trim_blanks_ats hblanks ats hnumber]
  · rintro ⟨value, houtput, hnumber⟩
    have htrimmed : Trimmed ("ActiveEnterTimestamp=".toList ++ value) :=
      houtput ▸ trimmed_trim output
    obtain ⟨blanks, ats, hblanks, hvalue⟩ := exists_blanks_ats htrimmed.trim_right
    refine ⟨blanks, ats, _, hblanks, hnumber, ?_⟩
    rw [← houtput, List.append_assoc, List.append_assoc, ← List.append_assoc blanks, ← hvalue]

/-- A text tells one number at most. -/
theorem TellsStart.unique (hn : TellsStart output n) (hm : TellsStart output m) : n = m := by
  obtain ⟨value, hvalue, hn⟩ := tellsStart_iff.1 hn
  obtain ⟨value', hvalue', hm⟩ := tellsStart_iff.1 hm
  obtain rfl := Option.some.inj (hvalue.symm.trans hvalue')
  exact hn.unique hm

/-! ## Reading -/

theorem startTime?_eq_some_iff : startTime? output = some n ↔ TellsStart output n ∧ IsInt64 n := by
  rw [startTime?, Option.bind_eq_some_iff, tellsStart_iff]
  simp only [readInt64?_eq_some_iff]
  constructor
  · rintro ⟨value, hvalue, hnumber, hword⟩
    exact ⟨⟨value, hvalue, hnumber⟩, hword⟩
  · rintro ⟨⟨value, hvalue, hnumber⟩, hword⟩
    exact ⟨value, hvalue, hnumber, hword⟩

theorem startTime?_eq_none_iff :
    startTime? output = none ↔ ¬∃ n, TellsStart output n ∧ IsInt64 n := by
  rw [Option.eq_none_iff_forall_ne_some]
  simp only [ne_eq, startTime?_eq_some_iff, not_exists]

theorem TellsStart.startTime?_eq_none (h : TellsStart output n) (hn : ¬ IsInt64 n) :
    startTime? output = none := by
  rw [startTime?_eq_none_iff]
  rintro ⟨m, hm, hword⟩
  exact hn (h.unique hm ▸ hword)

/-! ## The line of the service manager -/

/-- The line that tells a start. -/
def startLine (n : Int) : Text := "ActiveEnterTimestamp=@".toList ++ decimalInt n ++ ['\n']

theorem trim_startLine (n : Int) :
    trim (startLine n) = "ActiveEnterTimestamp=@".toList ++ decimalInt n := by
  have hname : ∀ c ∈ "ActiveEnterTimestamp=@".toList, isBlank c = false := by simp [isBlank]
  exact trim_line (List.forall_mem_append.2 ⟨hname, (writesInt_decimalInt n).noBlank⟩)

theorem tellsStart_startLine (n : Int) : TellsStart (startLine n) n := by
  have hname : "ActiveEnterTimestamp=@".toList =
      "ActiveEnterTimestamp=".toList ++ [] ++ List.replicate 1 '@' := by decide
  exact ⟨[], 1, decimalInt n, nofun, writesInt_decimalInt n, hname ▸ trim_startLine n⟩

/-- What is understood of a text. -/
structure Understood (output : Text) : Prop where
  /-- A start is understood if and only if the text tells it, and it is a number of 64 bits. -/
  accepted : ∀ n, startTime? output = some n ↔ TellsStart output n ∧ IsInt64 n
  /-- Nothing else is understood. -/
  refused : startTime? output = none ↔ ¬∃ n, TellsStart output n ∧ IsInt64 n
  /-- There is one way to understand a text at most. -/
  unique : ∀ n m, TellsStart output n → TellsStart output m → n = m
  /-- A number that needs more bits is not taken for another one. -/
  tooLarge : ∀ n, TellsStart output n → ¬ IsInt64 n → startTime? output = none
  /-- The text of what is understood holds its decimal form. -/
  shown : ∀ n, startTime? output = some n ↔ IsInt64 n ∧ ∃ blanks ats sign zeros,
    Blank blanks ∧ Signs n sign ∧ trim output = "ActiveEnterTimestamp=".toList ++ blanks ++
      List.replicate ats '@' ++ (sign ++ List.replicate zeros '0' ++ decimal n.natAbs)

theorem understood (output : Text) : Understood output where
  accepted _ := startTime?_eq_some_iff
  refused := startTime?_eq_none_iff
  unique _ _ := TellsStart.unique
  tooLarge _ := TellsStart.startTime?_eq_none
  shown _ := by rw [startTime?_eq_some_iff, and_comm, tellsStart_iff_decimal]

/-- Every text is understood as it is meant, among them the lines of the service manager. -/
theorem understood_startTime? :
    (∀ output, Understood output) ∧
      (∀ start : Int64, startTime? (startLine start.toInt) = some start.toInt) ∧
      ∀ n, ¬ IsInt64 n → startTime? (startLine n) = none := by
  refine ⟨understood, fun start => ?_, fun n => (tellsStart_startLine n).startTime?_eq_none⟩
  exact startTime?_eq_some_iff.2 ⟨tellsStart_startLine start.toInt, start, rfl⟩

/-- The least number of 64 bits, of which there is no positive counterpart. -/
example : startTime? "ActiveEnterTimestamp= @@-09223372036854775808".toList =
    some Int64.minValue.toInt := by
  decide +kernel

end VpnTray.ConnectionInfo
