import VpnTray.Text.Basic

/-!
# Decimal numbers

Whole numbers in decimal, as the tray writes them and as it reads them back from
the output of other programs. Reading takes digits only, after an optional sign,
and refuses a number outside its range: it never wraps.
-/

namespace VpnTray.Text

/-- The decimal form of a natural number. -/
def decimal (n : Nat) : List Char := Nat.toDigits 10 n

/-- The decimal form of a whole number, with a minus sign in front if it is negative. -/
def decimalInt : Int → List Char
  | .ofNat n => decimal n
  | .negSucc n => '-' :: decimal (n + 1)

/-- The decimal form padded with zeros in front to at least `width` digits. -/
def decimalPadded (width n : Nat) : List Char :=
  List.replicate (width - (decimal n).length) '0' ++ decimal n

/-- The number written by one or more ASCII digits. -/
def readDigits? (cs : List Char) : Option Nat :=
  if cs.isEmpty || !cs.all Char.isDigit then none else some (Nat.ofDigitChars 10 cs 0)

/-- A number below `bound`: digits, with an optional plus sign in front. -/
def readBelow? (bound : Nat) (cs : List Char) : Option Nat :=
  let digits := match cs with
    | '+' :: rest => rest
    | _ => cs
  (readDigits? digits).filter (· < bound)

/-- A signed number of 64 bits: digits, with an optional sign in front. -/
def readInt64? (cs : List Char) : Option Int :=
  let number := match cs with
    | '-' :: rest => (readDigits? rest).map fun n => -(n : Int)
    | '+' :: rest => (readDigits? rest).map Int.ofNat
    | _ => (readDigits? cs).map Int.ofNat
  number.filter fun n => Int64.minValue.toInt ≤ n && n ≤ Int64.maxValue.toInt

theorem decimal_ne_nil (n : Nat) : decimal n ≠ [] := Nat.toDigits_ne_nil

theorem isDigit_of_mem_decimal {n : Nat} {c : Char} (h : c ∈ decimal n) : c.isDigit :=
  Nat.isDigit_of_mem_toDigits (by decide) (by decide) h

/-- Reading undoes writing. -/
@[simp] theorem readDigits?_decimal (n : Nat) : readDigits? (decimal n) = some n := by
  have hall : (decimal n).all Char.isDigit := List.all_eq_true.2 fun _ => isDigit_of_mem_decimal
  have hne : (decimal n).isEmpty = false := by simp [decimal_ne_nil]
  rw [readDigits?, hne, hall, decimal, Nat.ofDigitChars_ten_toDigits]
  rfl

end VpnTray.Text
