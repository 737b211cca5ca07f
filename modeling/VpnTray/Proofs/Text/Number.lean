import VpnTray.Proofs.Text.Blank
import VpnTray.Text.Decimal

/-!
# Numbers in texts

A number is read from a text without the blanks around it. What is read is what the digits
say (`readBelow?_eq_some_iff`). A number that was written is found in a line as it is
(`trim_decimal`).

The digits of a number are those of its decimal form, but for zeros in front (`writes_iff`). A
number may have a sign in front as well. A text never writes two numbers (`WritesInt.unique`), and
the one it writes is read, unless it does not fit into 64 bits (`readInt64?_eq_some_iff`).
-/

namespace VpnTray.Text

/-! ## Digits -/

theorem toNat_of_isDigit {c : Char} (h : c.isDigit) : 48 ≤ c.toNat ∧ c.toNat ≤ 57 := by
  simpa [Char.isDigit, UInt32.le_iff_toNat_le] using h

theorem isBlank_of_isDigit {c : Char} (h : c.isDigit) : isBlank c = false := by
  have hdigit := toNat_of_isDigit h
  simp [isBlank]
  omega

/-- One or more digits write a number. -/
structure Writes (digits : List Char) (n : Nat) : Prop where
  nonempty : digits ≠ []
  digit : ∀ c ∈ digits, c.isDigit
  value : Nat.ofDigitChars 10 digits 0 = n

theorem readDigits?_eq_some_iff {cs : List Char} {n : Nat} :
    readDigits? cs = some n ↔ Writes cs n := by
  rw [readDigits?]
  constructor
  · intro h
    split at h
    · cases h
    · next hdigits =>
      simp only [Bool.or_eq_true, List.isEmpty_iff, Bool.not_eq_true', not_or,
        Bool.not_eq_false, List.all_eq_true] at hdigits
      exact ⟨hdigits.1, hdigits.2, Option.some.inj h⟩
  · rintro ⟨hne, hdigits, hvalue⟩
    rw [if_neg, hvalue]
    simp [hne, List.all_eq_true.2 hdigits]

/-- What is read is a number within its bounds that is written by digits, with an optional
    plus sign in front. -/
theorem readBelow?_eq_some_iff {bound n : Nat} {cs : List Char} :
    readBelow? bound cs = some n ↔
      n < bound ∧ ∃ digits, Writes digits n ∧ (cs = digits ∨ cs = '+' :: digits) := by
  unfold readBelow?
  rw [Option.filter_eq_some_iff, decide_eq_true_iff, and_comm]
  refine and_congr_right fun _ => ?_
  rw [readDigits?_eq_some_iff]
  split
  · next rest =>
    refine ⟨fun h => ⟨rest, h, .inr rfl⟩, ?_⟩
    rintro ⟨digits, hwrites, rfl | heq⟩
    · -- A plus sign is not a digit.
      exact absurd (hwrites.digit '+' List.mem_cons_self) (by decide)
    · rwa [(List.cons.inj heq).2]
  · next hplus =>
    refine ⟨fun h => ⟨cs, h, .inl rfl⟩, ?_⟩
    rintro ⟨digits, hwrites, rfl | rfl⟩
    · exact hwrites
    · exact absurd rfl (hplus digits)

theorem writes_decimal (n : Nat) : Writes (decimal n) n :=
  readDigits?_eq_some_iff.1 (readDigits?_decimal n)

theorem noBlank_decimal (n : Nat) : ∀ c ∈ decimal n, isBlank c = false := fun _ hc =>
  isBlank_of_isDigit (isDigit_of_mem_decimal hc)

/-- A number that was written needs no trimming, and its line end goes. -/
theorem trim_decimal (n : Nat) : trim (decimal n ++ ['\n']) = decimal n :=
  trim_line (noBlank_decimal n)

/-! ## Zeros in front -/

theorem digit_lt {c : Char} (h : c.isDigit) : c.toNat - '0'.toNat < 10 := by
  have hdigit := toNat_of_isDigit h
  have hzero : '0'.toNat = 48 := rfl
  omega

theorem decimal_of_isDigit {c : Char} (h : c.isDigit) : decimal (c.toNat - '0'.toNat) = [c] := by
  have hchar : Nat.digitChar (c.toNat - '0'.toNat) = c := by
    rw [← Char.toNat_inj, Nat.toNat_digitChar_of_lt_ten (digit_lt h)]
    exact Nat.add_sub_cancel' (toNat_of_isDigit h).1
  rw [decimal, Nat.toDigits_of_lt_base (digit_lt h), hchar]

/-- More digits make the decimal form of a number longer, unless it is zero. -/
theorem decimal_append {n : Nat} {digits : List Char} (hn : 0 < n)
    (hdigits : ∀ c ∈ digits, c.isDigit) :
    decimal n ++ digits = decimal (Nat.ofDigitChars 10 digits n) := by
  induction digits generalizing n with
  | nil => rw [List.append_nil, Nat.ofDigitChars_nil]
  | cons c digits ih =>
    obtain ⟨hc, hrest⟩ := List.forall_mem_cons.1 hdigits
    have hnext : decimal n ++ [c] = decimal (10 * n + (c.toNat - '0'.toNat)) := by
      rw [← decimal_of_isDigit hc]
      exact Nat.toDigits_append_toDigits (by decide) hn (digit_lt hc)
    rw [Nat.ofDigitChars_cons, ← ih (by omega) hrest, ← hnext, List.append_assoc,
      List.singleton_append]

theorem writes_replicate_append (zeros n : Nat) :
    Writes (List.replicate zeros '0' ++ decimal n) n where
  nonempty := List.append_ne_nil_of_right_ne_nil _ (decimal_ne_nil n)
  digit := List.forall_mem_append.2
    ⟨fun _ hc => List.eq_of_mem_replicate hc ▸ rfl, fun _ => isDigit_of_mem_decimal⟩
  value := by
    rw [Nat.ofDigitChars_append, Nat.ofDigitChars_replicate_zero, Nat.mul_zero,
      (writes_decimal n).value]

theorem Writes.exists_zeros {digits : List Char} {n : Nat} (h : Writes digits n) :
    ∃ zeros, digits = List.replicate zeros '0' ++ decimal n := by
  obtain ⟨hne, hdigits, rfl⟩ := h
  induction digits with
  | nil => exact absurd rfl hne
  | cons c digits ih =>
    obtain ⟨hc, hrest⟩ := List.forall_mem_cons.1 hdigits
    have hdecimal := decimal_of_isDigit hc
    rw [Nat.ofDigitChars_cons, Nat.mul_zero, Nat.zero_add]
    rcases Nat.eq_zero_or_pos (c.toNat - '0'.toNat) with hzero | hpos
    · -- A zero by itself is the decimal form, and any other goes in front of it.
      rw [hzero] at hdecimal ⊢
      obtain rfl : '0' = c := List.singleton_inj.1 hdecimal
      rcases eq_or_ne digits [] with rfl | hmore
      · exact ⟨0, rfl⟩
      · obtain ⟨zeros, hzeros⟩ := ih hmore hrest
        exact ⟨zeros + 1, congrArg ('0' :: ·) hzeros⟩
    · refine ⟨0, ?_⟩
      rw [← decimal_append hpos hrest, hdecimal]
      rfl

/-- The digits that write a number are those of its decimal form, with zeros in front. -/
theorem writes_iff {digits : List Char} {n : Nat} :
    Writes digits n ↔ ∃ zeros, digits = List.replicate zeros '0' ++ decimal n := by
  refine ⟨Writes.exists_zeros, ?_⟩
  rintro ⟨zeros, rfl⟩
  exact writes_replicate_append zeros n

/-! ## Signs -/

/-- The signs that a number may have in front of its digits. Zero may have either. -/
inductive Signs : Int → List Char → Prop
  | none {n : Int} : 0 ≤ n → Signs n []
  | plus {n : Int} : 0 ≤ n → Signs n ['+']
  | minus {n : Int} : n ≤ 0 → Signs n ['-']

/-- One or more digits write a whole number, with an optional sign in front. -/
inductive WritesInt : List Char → Int → Prop
  | mk {n : Int} {sign digits : List Char} :
    Signs n sign → Writes digits n.natAbs → WritesInt (sign ++ digits) n

section Signed

variable {cs : List Char} {n m : Int}

/-- The texts of a whole number are its decimal form, but for signs and zeros in front. -/
theorem writesInt_iff :
    WritesInt cs n ↔ ∃ sign zeros, Signs n sign ∧
      cs = sign ++ List.replicate zeros '0' ++ decimal n.natAbs := by
  constructor
  · rintro ⟨hsign, hwrites⟩
    obtain ⟨zeros, rfl⟩ := writes_iff.1 hwrites
    exact ⟨_, zeros, hsign, (List.append_assoc ..).symm⟩
  · rintro ⟨sign, zeros, hsign, rfl⟩
    rw [List.append_assoc]
    exact .mk hsign (writes_iff.2 ⟨zeros, rfl⟩)

/-- A whole number is written by signs and digits alone. -/
theorem WritesInt.sign_or_digit (h : WritesInt cs n) :
    ∀ c ∈ cs, c = '+' ∨ c = '-' ∨ c.isDigit := by
  obtain ⟨hsign, hwrites⟩ := h
  refine List.forall_mem_append.2 ⟨?_, fun c hc => .inr (.inr (hwrites.digit c hc))⟩
  cases hsign with
  | none => exact nofun
  | plus => exact List.forall_mem_singleton.2 (.inl rfl)
  | minus => exact List.forall_mem_singleton.2 (.inr (.inl rfl))

theorem WritesInt.noBlank (h : WritesInt cs n) : ∀ c ∈ cs, isBlank c = false := by
  intro c hc
  rcases h.sign_or_digit c hc with rfl | rfl | hdigit
  · rfl
  · rfl
  · exact isBlank_of_isDigit hdigit

theorem writesInt_decimalInt (n : Int) : WritesInt (decimalInt n) n := by
  cases n with
  | ofNat n => exact .mk (.none (Int.natCast_nonneg n)) (writes_decimal n)
  | negSucc n =>
    exact .mk (.minus (Int.le_of_lt (Int.negSucc_lt_zero n))) (writes_decimal (n + 1))

/-- A whole number: digits, with an optional sign in front. -/
def readInt? : List Char → Option Int
  | '-' :: rest => (readDigits? rest).map fun n : Nat => -(n : Int)
  | '+' :: rest => (readDigits? rest).map Int.ofNat
  | cs => (readDigits? cs).map Int.ofNat

theorem writesInt_of_readInt? (h : readInt? cs = some n) : WritesInt cs n := by
  unfold readInt? at h
  split at h
  · obtain ⟨k, hk, rfl⟩ := Option.map_eq_some_iff.1 h
    have hdigits := readDigits?_eq_some_iff.1 hk
    rw [← Int.natAbs_natCast k, ← Int.natAbs_neg] at hdigits
    exact .mk (.minus (Int.neg_nonpos_of_nonneg (Int.natCast_nonneg k))) hdigits
  · obtain ⟨k, hk, rfl⟩ := Option.map_eq_some_iff.1 h
    exact .mk (.plus (Int.natCast_nonneg k)) (readDigits?_eq_some_iff.1 hk)
  · obtain ⟨k, hk, rfl⟩ := Option.map_eq_some_iff.1 h
    exact .mk (.none (Int.natCast_nonneg k)) (readDigits?_eq_some_iff.1 hk)

theorem WritesInt.readInt?_eq (h : WritesInt cs n) : readInt? cs = some n := by
  obtain ⟨hsign, hwrites⟩ := h
  have hread := readDigits?_eq_some_iff.2 hwrites
  cases hsign with
  | none hn =>
    rw [List.nil_append]
    unfold readInt?
    split
    · exact absurd (hwrites.digit '-' List.mem_cons_self) (by decide)
    · exact absurd (hwrites.digit '+' List.mem_cons_self) (by decide)
    · rw [hread]
      exact congrArg some (Int.natAbs_of_nonneg hn)
  | plus hn =>
    rw [List.singleton_append, readInt?, hread]
    exact congrArg some (Int.natAbs_of_nonneg hn)
  | minus hn =>
    rw [List.singleton_append, readInt?, hread, Option.map_some, Int.ofNat_natAbs_of_nonpos hn,
      Int.neg_neg]

/-- A text writes one number at most. -/
theorem WritesInt.unique (hn : WritesInt cs n) (hm : WritesInt cs m) : n = m :=
  Option.some.inj (hn.readInt?_eq.symm.trans hm.readInt?_eq)

/-- A number of 64 bits, one of which is for the sign. -/
def IsInt64 (n : Int) : Prop := ∃ word : Int64, word.toInt = n

theorem isInt64_iff :
    IsInt64 n ↔ Int64.minValue.toInt ≤ n ∧ n ≤ Int64.maxValue.toInt := by
  constructor
  · rintro ⟨word, rfl⟩
    exact ⟨word.minValue_le_toInt, word.toInt_le⟩
  · rintro ⟨hmin, hmax⟩
    refine ⟨Int64.ofInt n, Int64.toInt_ofInt_of_le ?_ ?_⟩
    · rwa [← Int64.toInt_minValue]
    · rw [Int64.toInt_maxValue] at hmax
      exact Int.lt_of_le_sub_one hmax

theorem readInt64?_eq (cs : List Char) : readInt64? cs =
    (readInt? cs).filter fun n => Int64.minValue.toInt ≤ n && n ≤ Int64.maxValue.toInt := by
  unfold readInt64?
  split
  · next rest =>
    rw [readInt?]
    cases readDigits? rest with
    | none => rfl
    | some n => rfl
  · rfl
  · next hminus hplus =>
    rw [readInt?]
    · exact hminus
    · exact hplus

/-- What is read is the number that is written, if it is one of 64 bits. -/
theorem readInt64?_eq_some_iff :
    readInt64? cs = some n ↔ WritesInt cs n ∧ IsInt64 n := by
  rw [readInt64?_eq, Option.filter_eq_some_iff, isInt64_iff, Bool.and_eq_true, decide_eq_true_iff,
    decide_eq_true_iff]
  exact and_congr_left fun _ => ⟨writesInt_of_readInt?, WritesInt.readInt?_eq⟩

end Signed

end VpnTray.Text
