/-!
# The shortest decimal of a binary number

A finite 64-bit float is `significand * 2 ^ exponent`, and the reals nearer to it
than to its neighbours form an interval around it. Among the decimals in that
interval the *shortest* one has the fewest digits, and is the nearest of those:
it is the number to print, as it reads back as the same float and no shorter
decimal does.

All comparisons are made between natural numbers: `binary` and `decimal` bring
`a * 2 ^ q` and `d * 10 ^ e` to a common scale, free of fractions.
-/

namespace VpnTray.Decimal

/-- A number `digits * 10 ^ exponent`. -/
structure Digits where
  digits : Nat
  exponent : Int
deriving Repr, DecidableEq

/-- The magnitude of a finite float, `significand * 2 ^ exponent`; `narrow` says that
    its lower neighbour is only half as far away as its upper one. -/
structure Magnitude where
  significand : Nat
  exponent : Int
  narrow : Bool
deriving Repr, DecidableEq

/-- The leading bit of a significand, which is left out where a float is stored. -/
def hiddenBit : Nat := 0x10000000000000

/-- The magnitude behind the bits of a finite float. -/
def Magnitude.ofBits (bits : UInt64) : Magnitude :=
  let biased := (bits >>> 52).toNat % 2048
  let fraction := bits.toNat % hiddenBit
  if biased = 0 then ⟨fraction, -1074, false⟩
  else ⟨hiddenBit + fraction, biased - 1075, fraction = 0 && 1 < biased⟩

namespace Magnitude

variable (m : Magnitude)

/-- `a` quarters of the last binary place, on the scale where `decimal m e 1` is the
    unit `10 ^ e`. -/
def binary (e : Int) (a : Nat) : Nat :=
  a * Nat.pow 2 (m.exponent - 2).toNat * Nat.pow 10 (-e).toNat

/-- The number `d * 10 ^ e`, on the scale of `binary m e`. -/
def decimal (e : Int) (d : Nat) : Nat :=
  d * Nat.pow 10 e.toNat * Nat.pow 2 (2 - m.exponent).toNat

/-- The decimal `d * 10 ^ e` reads back as the float: it lies in the interval, whose
    ends belong to it exactly if the significand is even. -/
def accepts (e : Int) (d : Nat) : Bool :=
  let low := m.binary e (4 * m.significand - if m.narrow then 1 else 2)
  let high := m.binary e (4 * m.significand + 2)
  let x := m.decimal e d
  if m.significand % 2 = 0 then low ≤ x && x ≤ high else low < x && x < high

/-- The exponent of the leading decimal digit of a positive magnitude. -/
def leading : Int :=
  let scaled := m.binary (-400) (4 * m.significand) / m.decimal (-400) 1
  (Nat.toDigits 10 scaled).length - 401

/-- The better of the two multiples of `10 ^ e` around the magnitude, among those
    that read back: the nearer one, and the even one if both are as near. -/
def onGrid? (e : Int) : Option Digits :=
  let x := m.binary e (4 * m.significand)
  let d := x / m.decimal e 1
  let middle := m.decimal e d + m.decimal e (d + 1)
  let lower := 2 * x < middle || (2 * x = middle && d % 2 = 0)
  match m.accepts e d, m.accepts e (d + 1) with
  | true, true => some ⟨if lower then d else d + 1, e⟩
  | true, false => some ⟨d, e⟩
  | false, true => some ⟨d + 1, e⟩
  | false, false => none

/-- The shortest decimal of a positive magnitude. Seventeen digits always suffice. -/
def shortest : Digits :=
  ((List.range 17).findSome? fun n : Nat => m.onGrid? (m.leading - n)).getD ⟨0, 0⟩

end Magnitude

end VpnTray.Decimal
