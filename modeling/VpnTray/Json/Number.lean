import VpnTray.Text.Decimal

/-!
# JSON numbers

A number literal is kept as it is written (`Number`). What it stands for is
decided when it is asked for (`Number.value?`): without fraction and exponent it
is a whole number if it fits 64 bits, and every other literal is a float. A minus
sign before a zero makes a float too, as there is no whole number for it.

A float is made from at most 64 bits of its digits, the *significand*, scaled by a
power of ten in floating point; the digits that no longer fit only count as
places. A literal too large for a float has no value.
-/

namespace VpnTray.Json

open VpnTray.Text

/-- The exponent of a literal: its sign and its digits. -/
structure Exponent where
  negative : Bool
  digits : List Char
deriving DecidableEq, Repr

/-- A number literal: a sign, the digits before and after the point, and an exponent. -/
structure Number where
  negative : Bool
  whole : List Char
  fraction : List Char
  exponent : Option Exponent
deriving DecidableEq, Repr

/-- What a number literal stands for. -/
inductive NumberValue where
  | integer (n : Int)
  | float (x : Float)

/-- The digits that a text begins with, and what follows them. -/
def spanDigits (cs : List Char) : List Char × List Char :=
  (cs.takeWhile Char.isDigit, cs.dropWhile Char.isDigit)

namespace Number

/-- Reads the digits before the point: a zero by itself, or digits without a zero in front. -/
def lexWhole? (cs : List Char) : Option (List Char × List Char) :=
  match spanDigits cs with
  | ([], _) => none
  | ('0' :: _ :: _, _) => none
  | (digits, rest) => some (digits, rest)

/-- Reads the point and the digits after it, if there is a point. -/
def lexFraction? : List Char → Option (List Char × List Char)
  | '.' :: cs =>
    match spanDigits cs with
    | ([], _) => none
    | (digits, rest) => some (digits, rest)
  | cs => some ([], cs)

/-- Reads the sign of an exponent: whether it is negative. -/
def lexSign : List Char → Bool × List Char
  | '-' :: cs => (true, cs)
  | '+' :: cs => (false, cs)
  | cs => (false, cs)

/-- Reads an exponent, if there is one. -/
def lexExponent? : List Char → Option (Option Exponent × List Char)
  | [] => some (none, [])
  | c :: cs =>
    if c = 'e' || c = 'E' then
      let (negative, cs) := lexSign cs
      match spanDigits cs with
      | ([], _) => none
      | (digits, rest) => some (some ⟨negative, digits⟩, rest)
    else some (none, c :: cs)

/-- Reads a number literal without its sign, and gives it with what follows it. -/
def lexUnsigned? (negative : Bool) (cs : List Char) : Option (Number × List Char) := do
  let (whole, cs) ← lexWhole? cs
  let (fraction, cs) ← lexFraction? cs
  let (exponent, cs) ← lexExponent? cs
  return (⟨negative, whole, fraction, exponent⟩, cs)

/-- Reads a number literal, and gives it with what follows it. -/
def lex? : List Char → Option (Number × List Char)
  | '-' :: cs => lexUnsigned? true cs
  | cs => lexUnsigned? false cs

/-- The significand after some more digits, and how many of them did not fit: from the
    first digit with which it would exceed 64 bits on, digits are left out. -/
def accumulate (significand : Nat) : List Char → Nat × Nat
  | [] => (significand, 0)
  | c :: cs =>
    let extended := significand * 10 + (c.toNat - '0'.toNat)
    if extended < UInt64.size then accumulate extended cs else (significand, cs.length + 1)

/-- The largest power of ten that is a float. -/
def maxPower : Nat := 308

/-- `x` scaled by a power of ten, `none` beyond the range of floats. A very small
    power is applied in portions, until the number is zero; `portions` bounds them. -/
def scale? (portions : Nat) (x : Float) (exponent : Int) : Option Float :=
  let power := exponent.natAbs
  if power ≤ maxPower then
    if 0 ≤ exponent then
      let y := x * Float.ofScientific 1 false power
      if y.isInf then none else some y
    else some (x / Float.ofScientific 1 false power)
  else if x == 0 then some x
  else if 0 ≤ exponent then none
  else match portions with
    | 0 => some 0
    | portions + 1 =>
      scale? portions (x / Float.ofScientific 1 false maxPower) (exponent + maxPower)

/-- The literal as a float. Dividing a significand by `10 ^ 308` twice leaves zero, so
    that three portions suffice. -/
def float? (n : Number) : Option Float :=
  let (significand, places) := accumulate 0 n.whole
  let (significand, left) := accumulate significand n.fraction
  let shift : Int := match n.exponent with
    | none => 0
    | some e =>
      let power := Nat.ofDigitChars 10 e.digits 0
      if e.negative then -power else power
  let exponent := shift + places - (n.fraction.length - left : Nat)
  (scale? 3 significand.toUInt64.toFloat exponent).map fun x => if n.negative then -x else x

/-- What the literal stands for; `none` if it is a float out of range. -/
def value? (n : Number) : Option NumberValue :=
  let magnitude := Nat.ofDigitChars 10 n.whole 0
  if n.fraction.isEmpty && n.exponent.isNone then
    if !n.negative && magnitude < UInt64.size then some (.integer magnitude)
    else if n.negative && 0 < magnitude && Int64.minValue.toInt ≤ -magnitude then
      some (.integer (-magnitude))
    else n.float?.map .float
  else n.float?.map .float

/-! ## What is read is consumed -/

theorem spanDigits_append (cs : List Char) : (spanDigits cs).1 ++ (spanDigits cs).2 = cs :=
  List.takeWhile_append_dropWhile

theorem lexWhole?_length {cs digits rest : List Char}
    (h : lexWhole? cs = some (digits, rest)) : rest.length < cs.length := by
  have hcs := congrArg List.length (spanDigits_append cs)
  rw [List.length_append] at hcs
  unfold lexWhole? at h
  split at h
  case h_1 | h_2 => simp at h
  case h_3 digits' rest' hne _ heq =>
    obtain ⟨rfl, rfl⟩ : digits' = digits ∧ rest' = rest := by simpa using h
    cases digits' with
    | nil => exact (hne rfl).elim
    | cons c cs' => simp only [heq, List.length_cons] at hcs; omega

theorem lexFraction?_length {cs digits rest : List Char}
    (h : lexFraction? cs = some (digits, rest)) : rest.length ≤ cs.length := by
  unfold lexFraction? at h
  split at h
  case h_1 cs =>
    have hcs := congrArg List.length (spanDigits_append cs)
    rw [List.length_append] at hcs
    split at h
    · simp at h
    · obtain ⟨rfl, rfl⟩ := by simpa using h
      simp only [*, List.length_cons] at hcs ⊢
      omega
  case h_2 => simp_all

theorem lexSign_length (cs : List Char) : (lexSign cs).2.length ≤ cs.length := by
  unfold lexSign
  split <;> simp

theorem lexExponent?_length {cs rest : List Char} {exponent : Option Exponent}
    (h : lexExponent? cs = some (exponent, rest)) : rest.length ≤ cs.length := by
  unfold lexExponent? at h
  split at h
  case h_1 => simp_all
  case h_2 c cs =>
    have hsign := lexSign_length cs
    have hcs := congrArg List.length (spanDigits_append (lexSign cs).2)
    rw [List.length_append] at hcs
    split at h
    · dsimp only at h
      split at h
      · simp at h
      · obtain ⟨_, rfl⟩ := by simpa using h
        simp only [*, List.length_cons] at hcs ⊢
        omega
    · obtain ⟨_, rfl⟩ := by simpa using h
      exact Nat.le_refl _

theorem lexUnsigned?_length {cs rest : List Char} {negative : Bool} {n : Number}
    (h : lexUnsigned? negative cs = some (n, rest)) : rest.length < cs.length := by
  simp only [lexUnsigned?, Option.bind_eq_bind, Option.bind_eq_some_iff, Option.pure_def,
    Option.some.injEq, Prod.mk.injEq, Prod.exists] at h
  obtain ⟨_, _, hwhole, _, _, hfraction, _, _, hexponent, _, rfl⟩ := h
  exact Nat.lt_of_le_of_lt (lexExponent?_length hexponent)
    (Nat.lt_of_le_of_lt (lexFraction?_length hfraction) (lexWhole?_length hwhole))

/-- A number literal has at least one character. -/
theorem lex?_length {cs rest : List Char} {n : Number}
    (h : lex? cs = some (n, rest)) : rest.length < cs.length := by
  unfold lex? at h
  split at h
  · exact Nat.lt_succ_of_lt (lexUnsigned?_length h)
  · exact lexUnsigned?_length h

end Number

end VpnTray.Json
